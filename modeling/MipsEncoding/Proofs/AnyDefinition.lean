import MipsEncoding.Proofs.Encoding
import MipsEncoding.Proofs.OperandGrammar
import MipsEncoding.Proofs.ReferenceWord
import MipsEncoding.Proofs.TargetTexts

/-! Encoding with an arbitrary definition and an arbitrary record of operands, neither of which need
come from the catalog or from a line. The encoder reads the slots of the definition's kind and no
others. It makes fields exactly if each of these slots holds something that its field can hold
(`HasFields`), and then the row of the fields can only have the wrong length, which the codes of the
definition alone decide. -/
namespace MipsEncoding

/-- The slots that the encoder reads for a kind. A jump falls back on the immediate value only if it
has no label. -/
def Kind.slots (ops : Operands) : Kind → List Slot
  | threeRegisters => [.rd, .rs, .rt]
  | shift => [.rd, .rt, .shiftAmount]
  | immediate => [.rs, .rt, .immediate]
  | branch => [.rs, .rt, .label]
  | jump => if ops.label = none then [.label, .immediate] else [.label]

/-- Two records hold the same in some slots. -/
def Operands.AgreeOn (slots : List Slot) (ops ops' : Operands) : Prop :=
  ∀ slot ∈ slots, ops.get slot = ops'.get slot

/-- The address that a jump goes to: what its label stands for, or its immediate value if there is no
label. -/
inductive Operands.Addresses (ops : Operands) : Int → Prop
  | label {label : Text} {address : Int} (given : ops.label = some label)
      (standsFor : StandsFor label address) : Addresses ops address
  | immediate {address : Int} (none : ops.label = none) (given : ops.immediate = some address) :
      Addresses ops address

/-- The fields of a record under a definition. Every slot that the kind asks for holds something that
fits its field; the other slots do not matter. -/
inductive Assembly.HasFields (d : Definition) (ops : Operands) : Kind → Fields → Prop
  | threeRegisters {rd rs rt : Register} {funct : Text} (hrd : ops.rd = some rd)
      (hrs : ops.rs = some rs) (hrt : ops.rt = some rt) (code : d.funct = some funct) :
      HasFields d ops .threeRegisters
        { opcode := d.opcode, rs := some (Bits.ofNat 5 rs.number),
          rt := some (Bits.ofNat 5 rt.number), rd := some (Bits.ofNat 5 rd.number),
          shamt := some (Bits.ofNat 5 0), funct := some funct }
  | shift {rd rt : Register} {amount : Nat} {funct : Text} (hrd : ops.rd = some rd)
      (hrt : ops.rt = some rt) (hamount : ops.shiftAmount = some amount) (small : amount < 32)
      (code : d.funct = some funct) :
      HasFields d ops .shift
        { opcode := d.opcode, rs := some (Bits.ofNat 5 0), rt := some (Bits.ofNat 5 rt.number),
          rd := some (Bits.ofNat 5 rd.number), shamt := some (Bits.ofNat 5 amount),
          funct := some funct }
  | immediate {rs rt : Register} {value : Int} (hrs : ops.rs = some rs) (hrt : ops.rt = some rt)
      (hvalue : ops.immediate = some value) (low : -32768 ≤ value) (high : value ≤ 32767) :
      HasFields d ops .immediate
        { opcode := d.opcode, rs := some (Bits.ofNat 5 rs.number),
          rt := some (Bits.ofNat 5 rt.number),
          immediate := some (Bits.ofNat 16 (value % 2 ^ 16).toNat) }
  | branch {rs rt : Register} {label : Text} {value : Int} (hrs : ops.rs = some rs)
      (hrt : ops.rt = some rt) (hlabel : ops.label = some label) (standsFor : StandsFor label value)
      (low : -32768 ≤ value) (high : value ≤ 32767) :
      HasFields d ops .branch
        { opcode := d.opcode, rs := some (Bits.ofNat 5 rs.number),
          rt := some (Bits.ofNat 5 rt.number),
          immediate := some (Bits.ofNat 16 (value % 2 ^ 16).toNat) }
  | jump {address : Int} (addresses : ops.Addresses address) (low : 0 ≤ address)
      (high : address < 2 ^ 28) (aligned : 4 ∣ address) :
      HasFields d ops .jump
        { opcode := d.opcode, address := some (Bits.ofNat 26 (address / 4).toNat) }

/-- The length of the row of the fields: that of the codes, and a fixed one for the other fields. -/
def Definition.rowLength (d : Definition) : Nat :=
  match d.format with
  | .register => d.opcode.byteSize + (d.funct.getD []).byteSize + 20
  | .immediate => d.opcode.byteSize + 26
  | .jump => d.opcode.byteSize + 26

namespace Assembly

section Reads

variable {d : Definition} {ops ops' : Operands}

/-- The encoder does the same with two records that agree on the slots of the kind. -/
theorem fieldsOf_congr (h : Operands.AgreeOn (d.kind.slots ops) ops ops') :
    fieldsOf d ops = fieldsOf d ops' := by
  generalize hk : d.kind = k at h
  cases k with
  | threeRegisters =>
    obtain ⟨hformat, hzeroes⟩ := Definition.kind_eq_iff.mp hk
    obtain ⟨hrd, hrs, hrt⟩ : ops.rd = ops'.rd ∧ ops.rs = ops'.rs ∧ ops.rt = ops'.rt := by
      simpa [Operands.AgreeOn, Kind.slots, Operands.get] using h
    simp [fieldsOf, hformat, registerFields, hzeroes, hrd, hrs, hrt]
  | shift =>
    obtain ⟨hformat, hzeroes⟩ := Definition.kind_eq_iff.mp hk
    obtain ⟨hrd, hrt, hamount⟩ : ops.rd = ops'.rd ∧ ops.rt = ops'.rt ∧
        ops.shiftAmount = ops'.shiftAmount := by
      simpa [Operands.AgreeOn, Kind.slots, Operands.get] using h
    simp [fieldsOf, hformat, registerFields, hzeroes, shiftAmount, hrd, hrt, hamount]
  | immediate =>
    obtain ⟨hformat, hbranches⟩ := Definition.kind_eq_iff.mp hk
    obtain ⟨hrs, hrt, hvalue⟩ : ops.rs = ops'.rs ∧ ops.rt = ops'.rt ∧
        ops.immediate = ops'.immediate := by
      simpa [Operands.AgreeOn, Kind.slots, Operands.get] using h
    simp [fieldsOf, hformat, immediateFields, immediateValue, hbranches, hrs, hrt, hvalue]
  | branch =>
    obtain ⟨hformat, hbranches⟩ := Definition.kind_eq_iff.mp hk
    obtain ⟨hrs, hrt, hlabel⟩ : ops.rs = ops'.rs ∧ ops.rt = ops'.rt ∧
        ops.label = ops'.label := by
      simpa [Operands.AgreeOn, Kind.slots, Operands.get] using h
    simp [fieldsOf, hformat, immediateFields, immediateValue, hbranches, hrs, hrt, hlabel]
  | jump =>
    have hformat : d.format = .jump := Definition.kind_eq_iff.mp hk
    have haddress : jumpAddress ops = jumpAddress ops' := by
      cases hl : ops.label with
      | some label =>
        have hlabel : some label = ops'.label := by
          simpa [Operands.AgreeOn, Kind.slots, Operands.get, hl] using h
        simp [jumpAddress, hl, ← hlabel]
      | none =>
        obtain ⟨hlabel, hvalue⟩ : none = ops'.label ∧ ops.immediate = ops'.immediate := by
          simpa [Operands.AgreeOn, Kind.slots, Operands.get, hl] using h
        simp [jumpAddress, hl, ← hlabel, hvalue]
    simp [fieldsOf, hformat, jumpFields, haddress]

theorem assemble_congr (h : Operands.AgreeOn (d.kind.slots ops) ops ops') :
    assemble d ops = assemble d ops' := by
  rw [assemble, assemble, fieldsOf_congr h]

end Reads

section Results

variable {d : Definition} {ops : Operands} {f : Fields} {bits : Text}

theorem outcome_registerBits_eq_ok_iff {slot : Option Register} {field : Text} :
    (registerBits slot field).outcome = .ok bits ↔
      ∃ r, slot = some r ∧ Bits.ofNat 5 r.number = bits := by
  cases slot <;> simp [registerBits, -registerBits_some, BitField.encode_five]

theorem withFunct_eq_ok_iff {rs rt rd shamt : Text} :
    withFunct d rs rt rd shamt = .ok f ↔ ∃ funct, d.funct = some funct ∧
      { opcode := d.opcode, rs := some rs, rt := some rt, rd := some rd, shamt := some shamt,
        funct := some funct } = f := by
  unfold withFunct
  cases d.funct <;> simp

theorem shiftAmount_eq_ok_iff {amount : Nat} :
    shiftAmount ops = .ok amount ↔ ops.shiftAmount = some amount := by
  unfold shiftAmount
  cases ops.shiftAmount <;> simp

theorem wordAddress_eq_ok_iff {address words : Int} :
    wordAddress address = .ok words ↔ 0 ≤ address ∧ 4 ∣ address ∧ address / 4 = words := by
  unfold wordAddress
  split_ifs with hnegative hmisaligned
  · simp only [false_iff]
    omega
  · simp only [false_iff]
    omega
  · simp only [Except.ok.injEq]
    omega

theorem jumpAddress_eq_ok_iff {address : Int} (hfits : fitsSignedWord address = true) :
    jumpAddress ops = .ok address ↔ ops.Addresses address := by
  unfold jumpAddress
  constructor
  · intro h
    split at h
    · next label _ hlabel => exact .label hlabel ((resolveTarget_eq_ok_iff hfits).mp h)
    · next value hnone hvalue =>
      cases h
      exact .immediate hnone hvalue
    · cases h
  · intro h
    cases h with
    | label given standsFor => simp [given, (resolveTarget_eq_ok_iff hfits).mpr standsFor]
    | immediate none given => simp [none, given]

theorem immediateValue_eq_ok_iff {value : Int} (hfits : fitsSignedWord value = true) :
    immediateValue d ops = .ok value ↔
      if d.branches then ∃ label, ops.label = some label ∧ StandsFor label value
      else ops.immediate = some value := by
  unfold immediateValue
  split
  · cases ops.label with
    | none => simp
    | some label => simp [resolveTarget_eq_ok_iff hfits]
  · cases ops.immediate <;> simp

theorem outcome_immediateFields_eq_ok_iff :
    (immediateFields d ops).outcome = .ok f ↔
      ∃ rs rt value, ops.rs = some rs ∧ ops.rt = some rt ∧
        (if d.branches then ∃ label, ops.label = some label ∧ StandsFor label value
          else ops.immediate = some value) ∧ (-32768 ≤ value ∧ value ≤ 32767) ∧
        { opcode := d.opcode, rs := some (Bits.ofNat 5 rs.number),
          rt := some (Bits.ofNat 5 rt.number),
          immediate := some (Bits.ofNat 16 (value % 2 ^ 16).toNat) } = f := by
  -- what fits the field fits 32 bits, so no target that gets this far has been cut off
  have hfits : ∀ {value : Int}, -32768 ≤ value ∧ value ≤ 32767 → fitsSignedWord value = true :=
    fun h => fitsSignedWord_iff.mpr (by omega)
  simp only [immediateFields, Run.outcome_bind, Run.outcome_ofExcept, bind_eq_ok_iff,
    outcome_registerBits_eq_ok_iff, BitField.outcome_encode_sixteen_eq_ok_iff, Run.outcome_pure,
    Except.ok.injEq]
  constructor
  · rintro ⟨_, ⟨rs, hrs, rfl⟩, _, ⟨rt, hrt, rfl⟩, value, hvalue, _, ⟨hrange, rfl⟩, hf⟩
    exact ⟨rs, rt, value, hrs, hrt, (immediateValue_eq_ok_iff (hfits hrange)).mp hvalue, hrange, hf⟩
  · rintro ⟨rs, rt, value, hrs, hrt, hvalue, hrange, hf⟩
    exact ⟨_, ⟨rs, hrs, rfl⟩, _, ⟨rt, hrt, rfl⟩, value,
      (immediateValue_eq_ok_iff (hfits hrange)).mpr hvalue, _, ⟨hrange, rfl⟩, hf⟩

/-- Fields are made exactly if the slots of the kind hold what goes into them. -/
theorem outcome_fieldsOf_eq_ok_iff :
    (fieldsOf d ops).outcome = .ok f ↔ HasFields d ops d.kind f := by
  cases hk : d.kind with
  | threeRegisters =>
    obtain ⟨hformat, hzeroes⟩ := Definition.kind_eq_iff.mp hk
    simp only [fieldsOf, hformat, registerFields, hzeroes, Bool.false_eq_true, if_false,
      Run.outcome_bind, Run.outcome_ofExcept, bind_eq_ok_iff, outcome_registerBits_eq_ok_iff,
      withFunct_eq_ok_iff]
    constructor
    · rintro ⟨_, ⟨rd, hrd, rfl⟩, _, ⟨rs, hrs, rfl⟩, _, ⟨rt, hrt, rfl⟩, funct, code, rfl⟩
      exact .threeRegisters hrd hrs hrt code
    · intro h
      cases h with
      | threeRegisters hrd hrs hrt code =>
        exact ⟨_, ⟨_, hrd, rfl⟩, _, ⟨_, hrs, rfl⟩, _, ⟨_, hrt, rfl⟩, _, code, rfl⟩
  | shift =>
    obtain ⟨hformat, hzeroes⟩ := Definition.kind_eq_iff.mp hk
    simp only [fieldsOf, hformat, registerFields, hzeroes, if_true, Run.outcome_bind,
      Run.outcome_ofExcept, bind_eq_ok_iff, outcome_registerBits_eq_ok_iff, shiftAmount_eq_ok_iff,
      BitField.outcome_encode_five_eq_ok_iff, withFunct_eq_ok_iff]
    constructor
    · rintro ⟨_, ⟨rd, hrd, rfl⟩, amount, hamount, _, ⟨rt, hrt, rfl⟩, _, ⟨small, rfl⟩, funct, code,
        rfl⟩
      exact .shift hrd hrt hamount small code
    · intro h
      cases h with
      | shift hrd hrt hamount small code =>
        exact ⟨_, ⟨_, hrd, rfl⟩, _, hamount, _, ⟨_, hrt, rfl⟩, _, ⟨small, rfl⟩, _, code, rfl⟩
  | immediate =>
    obtain ⟨hformat, hbranches⟩ := Definition.kind_eq_iff.mp hk
    simp only [fieldsOf, hformat, outcome_immediateFields_eq_ok_iff, hbranches, Bool.false_eq_true,
      if_false]
    constructor
    · rintro ⟨rs, rt, value, hrs, hrt, hvalue, ⟨low, high⟩, rfl⟩
      exact .immediate hrs hrt hvalue low high
    · intro h
      cases h with
      | immediate hrs hrt hvalue low high => exact ⟨_, _, _, hrs, hrt, hvalue, ⟨low, high⟩, rfl⟩
  | branch =>
    obtain ⟨hformat, hbranches⟩ := Definition.kind_eq_iff.mp hk
    simp only [fieldsOf, hformat, outcome_immediateFields_eq_ok_iff, hbranches, if_true]
    constructor
    · rintro ⟨rs, rt, value, hrs, hrt, ⟨label, hlabel, standsFor⟩, ⟨low, high⟩, rfl⟩
      exact .branch hrs hrt hlabel standsFor low high
    · intro h
      cases h with
      | branch hrs hrt hlabel standsFor low high =>
        exact ⟨_, _, _, hrs, hrt, ⟨_, hlabel, standsFor⟩, ⟨low, high⟩, rfl⟩
  | jump =>
    have hformat : d.format = .jump := Definition.kind_eq_iff.mp hk
    simp only [fieldsOf, hformat, jumpFields, Run.outcome_bind, Run.outcome_ofExcept,
      bind_eq_ok_iff, wordAddress_eq_ok_iff, BitField.outcome_encode_twentySix_eq_ok_iff,
      Run.outcome_pure, Except.ok.injEq]
    constructor
    · rintro ⟨address, haddress, _, ⟨low, aligned, rfl⟩, _, ⟨⟨-, high⟩, rfl⟩, rfl⟩
      have hfits : fitsSignedWord address = true := fitsSignedWord_iff.mpr (by omega)
      exact .jump ((jumpAddress_eq_ok_iff hfits).mp haddress) low (by omega) aligned
    · intro h
      cases h with
      | @jump address addresses low high aligned =>
        have hfits : fitsSignedWord address = true := fitsSignedWord_iff.mpr (by omega)
        exact ⟨address, (jumpAddress_eq_ok_iff hfits).mpr addresses, _, ⟨low, aligned, rfl⟩, _,
          ⟨⟨by omega, by omega⟩, rfl⟩, rfl⟩

end Results

section Causes

variable {d : Definition} {ops : Operands}

theorem failsOnly_registerBits (slot : Option Register) (field : Text) :
    (registerBits slot field).FailsOnly fun e => e.isInternal = false := by
  cases slot with
  | none => exact .of_fail rfl
  | some r => exact BitField.failsOnly_encode (by omega) (by omega)

theorem not_isInternal_of_resolveTarget {t : Text} {e : EncodingError}
    (h : resolveTarget t = .error e) : e.isInternal = false := by
  unfold resolveTarget at h
  split at h
  · cases h
  · cases h
    rfl
  · split at h <;> cases h
    rfl
  · cases h
    rfl

theorem failsOnly_registerFields :
    (registerFields d ops).FailsOnly fun e => e.isInternal = false := by
  have hfunct : ∀ rs rt rd shamt e, withFunct d rs rt rd shamt = .error e → e.isInternal = false := by
    intro rs rt rd shamt e h
    unfold withFunct at h
    split at h <;> cases h
    rfl
  have hamount : ∀ e, shiftAmount ops = .error e → e.isInternal = false := by
    intro e h
    unfold shiftAmount at h
    split at h <;> cases h
    rfl
  apply Run.FailsOnly.bind (failsOnly_registerBits _ _)
  intro rd _
  split
  · apply Run.FailsOnly.bind (.of_except hamount)
    intro amount _
    apply Run.FailsOnly.bind (failsOnly_registerBits _ _)
    intro rt _
    apply Run.FailsOnly.bind (BitField.failsOnly_encode (by omega) (by omega))
    intro shamt _
    exact .of_except (hfunct _ _ _ _)
  · apply Run.FailsOnly.bind (failsOnly_registerBits _ _)
    intro rs _
    apply Run.FailsOnly.bind (failsOnly_registerBits _ _)
    intro rt _
    exact .of_except (hfunct _ _ _ _)

theorem failsOnly_immediateFields :
    (immediateFields d ops).FailsOnly fun e => e.isInternal = false := by
  have hvalue : ∀ e, immediateValue d ops = .error e → e.isInternal = false := by
    intro e h
    unfold immediateValue at h
    split at h
    · split at h
      · exact not_isInternal_of_resolveTarget h
      · cases h
        rfl
    · split at h <;> cases h
      rfl
  apply Run.FailsOnly.bind (failsOnly_registerBits _ _)
  intro rs _
  apply Run.FailsOnly.bind (failsOnly_registerBits _ _)
  intro rt _
  apply Run.FailsOnly.bind (.of_except hvalue)
  intro value _
  apply Run.FailsOnly.bind (BitField.failsOnly_encode (by omega) (by omega))
  intro immediate _
  exact .of_ok _

theorem failsOnly_jumpFields : (jumpFields d ops).FailsOnly fun e => e.isInternal = false := by
  have haddress : ∀ e, jumpAddress ops = .error e → e.isInternal = false := by
    intro e h
    unfold jumpAddress at h
    split at h
    · exact not_isInternal_of_resolveTarget h
    · cases h
    · cases h
      rfl
  have hwords : ∀ address e, wordAddress address = .error e → e.isInternal = false := by
    intro address e h
    unfold wordAddress at h
    split_ifs at h <;> cases h <;> rfl
  apply Run.FailsOnly.bind (.of_except haddress)
  intro address _
  apply Run.FailsOnly.bind (.of_except (hwords address))
  intro words _
  apply Run.FailsOnly.bind (BitField.failsOnly_encode (by omega) (by omega))
  intro bits _
  exact .of_ok _

/-- Making the fields is never at fault, whatever the definition and the record hold. -/
theorem failsOnly_fieldsOf (d : Definition) (ops : Operands) :
    (fieldsOf d ops).FailsOnly fun e => e.isInternal = false := by
  unfold fieldsOf
  split
  · exact failsOnly_registerFields
  · exact failsOnly_immediateFields
  · exact failsOnly_jumpFields

end Causes

section Rows

variable {d : Definition} {ops : Operands} {f : Fields}

namespace HasFields

theorem names (h : HasFields d ops d.kind f) :
    f.entries.map (·.1) = d.format.layout.map (·.1) := by
  generalize hk : d.kind = k at h
  cases h with
  | threeRegisters | shift | immediate | branch =>
    rw [(Definition.kind_eq_iff.mp hk).1]
    rfl
  | jump =>
    have hformat : d.format = .jump := Definition.kind_eq_iff.mp hk
    rw [hformat]
    rfl

theorem byteSize_concat (h : HasFields d ops d.kind f) : f.concat.byteSize = d.rowLength := by
  have hbits : ∀ width n, (Bits.ofNat width n).byteSize = width := fun width n => by
    rw [Bits.byteSize_eq_length (Bits.all_isDigit_ofNat width n), Bits.length_ofNat]
  generalize hk : d.kind = k at h
  cases h with
  | threeRegisters _ _ _ code | shift _ _ _ _ code =>
    have hformat := (Definition.kind_eq_iff.mp hk).1
    simp [Definition.rowLength, hformat, code, Fields.concat, Fields.entries, hbits]
    omega
  | immediate | branch =>
    have hformat := (Definition.kind_eq_iff.mp hk).1
    simp [Definition.rowLength, hformat, Fields.concat, Fields.entries, hbits]
  | jump =>
    have hformat : d.format = .jump := Definition.kind_eq_iff.mp hk
    simp [Definition.rowLength, hformat, Fields.concat, Fields.entries, hbits]

/-- Codes of six digits make the row as long as a word. -/
theorem rowLength_of_codes (h : HasFields d ops d.kind f) (hopcode : d.opcode.byteSize = 6)
    (hfunct : d.format = .register → ∀ funct, d.funct = some funct → funct.byteSize = 6) :
    d.rowLength = 32 := by
  generalize hk : d.kind = k at h
  cases h with
  | threeRegisters _ _ _ code | shift _ _ _ _ code =>
    have hformat := (Definition.kind_eq_iff.mp hk).1
    simp [Definition.rowLength, hformat, code, hopcode, hfunct hformat _ code]
  | immediate | branch =>
    have hformat := (Definition.kind_eq_iff.mp hk).1
    simp [Definition.rowLength, hformat, hopcode]
  | jump =>
    have hformat : d.format = .jump := Definition.kind_eq_iff.mp hk
    simp [Definition.rowLength, hformat, hopcode]

end HasFields

theorem outcome_assemble_eq_ok_iff {a : Assembly} :
    (assemble d ops).outcome = .ok a ↔
      ∃ f, HasFields d ops d.kind f ∧ d.rowLength = 32 ∧ ⟨f.concat, f⟩ = a := by
  rw [assemble, Run.outcome_bind, bind_eq_ok_iff]
  refine exists_congr fun f => ?_
  rw [outcome_fieldsOf_eq_ok_iff]
  refine and_congr_right fun hf => ?_
  rw [ofFields, hf.byteSize_concat, wordBits]
  split <;> simp_all

theorem outcome_assemble_eq_error_iff {e : EncodingError} :
    (assemble d ops).outcome = .error e ↔ (fieldsOf d ops).outcome = .error e ∨
      ((∃ f, HasFields d ops d.kind f) ∧ d.rowLength ≠ 32 ∧ e = .wrongWordLength d.rowLength) := by
  rw [assemble, Run.outcome_bind, bind_eq_error_iff, ← exists_and_right]
  refine or_congr_right (exists_congr fun f => ?_)
  rw [outcome_fieldsOf_eq_ok_iff]
  refine and_congr_right fun hf => ?_
  rw [ofFields, hf.byteSize_concat, wordBits]
  split <;> simp_all [eq_comm]

end Rows

/-- What the encoder does with any definition and any record: it reads the slots of the kind only, it
is at fault exactly if these slots could be encoded but the row of the fields has not the length of a
word, and what it yields is the row of all the fields of the format. -/
theorem assemble_any_definition (d : Definition) (ops : Operands) :
    (∀ ops', Operands.AgreeOn (d.kind.slots ops) ops ops' → assemble d ops = assemble d ops') ∧
    (∀ n, (assemble d ops).outcome = .error (.wrongWordLength n) ↔
      (∃ f, HasFields d ops d.kind f) ∧ n = d.rowLength ∧ n ≠ 32) ∧
    (∀ width length, (assemble d ops).outcome ≠ .error (.wrongFieldWidth width length)) ∧
    (∀ a, (assemble d ops).outcome = .ok a →
      a.binary = a.fields.entries.flatMap (fun (_, bits) => bits) ∧ a.binary.byteSize = 32 ∧
        a.fields.entries.map (·.1) = d.format.layout.map (·.1)) ∧
    (d.opcode.byteSize = 6 →
      (d.format = .register → ∀ funct, d.funct = some funct → funct.byteSize = 6) →
      ∀ e, (assemble d ops).outcome = .error e → e.isInternal = false) := by
  have hcause := (failsOnly_fieldsOf d ops).cause
  refine ⟨fun ops' h => assemble_congr h, ?_, ?_, ?_, ?_⟩
  · intro n
    rw [outcome_assemble_eq_error_iff]
    constructor
    · rintro (h | ⟨hf, hlength, hn⟩)
      · cases hcause _ h
      · cases hn
        exact ⟨hf, rfl, hlength⟩
    · rintro ⟨hf, rfl, hlength⟩
      exact .inr ⟨hf, hlength, rfl⟩
  · intro width length h
    rcases outcome_assemble_eq_error_iff.mp h with h | ⟨-, -, hn⟩
    · cases hcause _ h
    · cases hn
  · intro a h
    obtain ⟨f, hf, hlength, rfl⟩ := outcome_assemble_eq_ok_iff.mp h
    exact ⟨rfl, hf.byteSize_concat.trans hlength, hf.names⟩
  · intro hopcode hfunct e h
    rcases outcome_assemble_eq_error_iff.mp h with h | ⟨⟨f, hf⟩, hlength, -⟩
    · exact hcause e h
    · exact absurd (hf.rowLength_of_codes hopcode hfunct) hlength

/-- Two jumps that are not in the catalog, the first one with an opcode that is too short. -/
theorem assemble_any_definition_jump :
    assemble (Catalog.jump "b" "00010" "") { immediate := some 8 } =
        assemble (Catalog.jump "b" "00010" "") { immediate := some 8, rd := some ⟨3⟩ } ∧
      (assemble (Catalog.jump "b" "00010" "") { immediate := some 8 }).outcome =
        .error (.wrongWordLength 31) ∧
      (∃ a, (assemble (Catalog.jump "b" "111111" "") { label := some " 0x8".toList }).outcome =
          .ok a ∧ a.binary.byteSize = 32 ∧
        a.fields.entries.map (·.1) = ["opcode".toList, "address".toList]) ∧
      ∃ e, (assemble (Catalog.jump "b" "111111" "") { label := some "x".toList }).outcome =
          .error e ∧ e.isInternal = false := by
  obtain ⟨hreads, hlength, -⟩ :=
    assemble_any_definition (Catalog.jump "b" "00010" "") { immediate := some 8 }
  refine ⟨?_, ?_, ?_, ?_⟩
  · apply hreads
    simp [Operands.AgreeOn, Definition.kind, Catalog.jump, Kind.slots, Operands.get]
  · rw [hlength]
    exact ⟨⟨_, .jump (.immediate rfl rfl) (by omega) (by omega) (by omega)⟩, by decide, by omega⟩
  · have hrun : ((assemble (Catalog.jump "b" "111111" "")
        { label := some " 0x8".toList }).outcome.toOption.map fun _ => ()) = some () := by
      decide +kernel
    obtain ⟨a, ha, -⟩ := exists_ok_of_toOption_map hrun
    obtain ⟨-, -, -, hok, -⟩ :=
      assemble_any_definition (Catalog.jump "b" "111111" "") { label := some " 0x8".toList }
    obtain ⟨-, hsize, hnames⟩ := hok a ha
    exact ⟨a, ha, hsize, hnames⟩
  · have hsymbol : (assemble (Catalog.jump "b" "111111" "") { label := some "x".toList }).outcome =
        .error (.unresolvedLabel "x".toList) := by
      decide +kernel
    obtain ⟨-, -, -, -, hcodes⟩ :=
      assemble_any_definition (Catalog.jump "b" "111111" "") { label := some "x".toList }
    exact ⟨_, hsymbol, hcodes (by decide) (by simp [Catalog.jump]) _ hsymbol⟩

end Assembly

end MipsEncoding
