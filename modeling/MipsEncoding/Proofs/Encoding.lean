import MipsEncoding.Assembly
import MipsEncoding.Proofs.Kinds
import MipsEncoding.Proofs.OperandReading
import MipsEncoding.Proofs.Rendering

/-! Encoding operands of the right kind. `Supplied` describes the operands that the template of a
definition yields, `Encodes` the fields that such operands have. Encoding them gives these fields
or one of the causes in `Refusal`, and it never makes a record. -/
namespace MipsEncoding

namespace BitField

@[simp] theorem lowest_signed (width : Nat) : lowest .signed width = -2 ^ (width - 1) := rfl

@[simp] theorem lowest_unsigned (width : Nat) : lowest .unsigned width = 0 := rfl

@[simp] theorem highest_signed (width : Nat) : highest .signed width = 2 ^ (width - 1) - 1 := rfl

@[simp] theorem highest_unsigned (width : Nat) : highest .unsigned width = 2 ^ width - 1 := rfl

theorem encode_of_mem {value : Int} {width : Nat} {signedness : Signedness} (hw : 0 < width)
    (hw' : width ≤ 32) (hlow : lowest signedness width ≤ value)
    (hhigh : value ≤ highest signedness width) :
    encode value width signedness = Run.ok (Bits.ofNat width (value % 2 ^ width).toNat) := by
  rw [encode, if_neg (by omega), if_neg (by omega)]
  rfl

theorem encode_of_not_mem {value : Int} {width : Nat} {signedness : Signedness} (hw : 0 < width)
    (hw' : width ≤ 32) (h : value < lowest signedness width ∨ highest signedness width < value) :
    encode value width signedness =
      Run.fail (.outOfRange value (lowest signedness width) (highest signedness width)) := by
  rw [encode, if_neg (by omega), if_pos h]

theorem encode_five {n : Nat} (hn : n < 32) :
    encode n 5 .unsigned = Run.ok (Bits.ofNat 5 n) := by
  have hmod : ((n : Int) % 2 ^ 5).toNat = n := by omega
  rw [encode_of_mem (by omega) (by omega) (by simp) (by rw [highest_unsigned]; omega), hmod]

theorem encode_sixteen {value : Int} (hlow : -32768 ≤ value) (hhigh : value ≤ 32767) :
    encode value 16 .signed = Run.ok (Bits.ofNat 16 (value % 2 ^ 16).toNat) :=
  encode_of_mem (by omega) (by omega) (by rw [lowest_signed]; omega) (by rw [highest_signed]; omega)

theorem encode_sixteen_fail {value : Int} (h : value < -32768 ∨ 32767 < value) :
    encode value 16 .signed = Run.fail (.outOfRange value (-32768) 32767) :=
  encode_of_not_mem (by omega) (by omega) (by rw [lowest_signed, highest_signed]; omega)

theorem encode_twentySix {n : Int} (hlow : 0 ≤ n) (hhigh : n < 2 ^ 26) :
    encode n 26 .unsigned = Run.ok (Bits.ofNat 26 n.toNat) := by
  have hmod : n % 2 ^ 26 = n := by omega
  rw [encode_of_mem (by omega) (by omega) (by rwa [lowest_unsigned])
    (by rw [highest_unsigned]; omega), hmod]

theorem encode_twentySix_fail {n : Int} (h : 2 ^ 26 ≤ n) :
    encode n 26 .unsigned = Run.fail (.outOfRange n 0 (2 ^ 26 - 1)) :=
  encode_of_not_mem (by omega) (by omega) (by rw [lowest_unsigned, highest_unsigned]; omega)

section Outcomes

variable {value : Int} {width : Nat} {s : Signedness} {bits : Text}

theorem outcome_encode_eq_ok_iff (hw : 0 < width) (hw' : width ≤ 32) :
    (encode value width s).outcome = .ok bits ↔
      (lowest s width ≤ value ∧ value ≤ highest s width) ∧
        Bits.ofNat width (value % 2 ^ width).toNat = bits := by
  by_cases hin : lowest s width ≤ value ∧ value ≤ highest s width
  · rw [encode_of_mem hw hw' hin.1 hin.2, Run.outcome_ok, Except.ok.injEq]
    simp [hin]
  · rw [encode_of_not_mem hw hw' (by omega), Run.outcome_fail]
    simp [hin]

theorem outcome_encode_five_eq_ok_iff {amount : Nat} :
    (encode amount 5 .unsigned).outcome = .ok bits ↔ amount < 32 ∧ Bits.ofNat 5 amount = bits := by
  rw [outcome_encode_eq_ok_iff (by omega) (by omega), lowest_unsigned, highest_unsigned]
  have hrange : (0 ≤ (amount : Int) ∧ (amount : Int) ≤ 2 ^ 5 - 1) ↔ amount < 32 := by omega
  rw [hrange]
  refine and_congr_right fun hsmall => ?_
  have hresidue : ((amount : Int) % 2 ^ 5).toNat = amount := by omega
  rw [hresidue]

theorem outcome_encode_sixteen_eq_ok_iff :
    (encode value 16 .signed).outcome = .ok bits ↔ (-32768 ≤ value ∧ value ≤ 32767) ∧
      Bits.ofNat 16 (value % 2 ^ 16).toNat = bits := by
  rw [outcome_encode_eq_ok_iff (by omega) (by omega), lowest_signed, highest_signed]
  have hrange : (-2 ^ (16 - 1) ≤ value ∧ value ≤ 2 ^ (16 - 1) - 1) ↔
      (-32768 ≤ value ∧ value ≤ 32767) := by omega
  rw [hrange]

theorem outcome_encode_twentySix_eq_ok_iff :
    (encode value 26 .unsigned).outcome = .ok bits ↔ (0 ≤ value ∧ value < 2 ^ 26) ∧
      Bits.ofNat 26 value.toNat = bits := by
  rw [outcome_encode_eq_ok_iff (by omega) (by omega), lowest_unsigned, highest_unsigned]
  have hrange : (0 ≤ value ∧ value ≤ 2 ^ 26 - 1) ↔ (0 ≤ value ∧ value < 2 ^ 26) := by omega
  rw [hrange]
  refine and_congr_right fun hvalue => ?_
  have hresidue : value % 2 ^ 26 = value := by omega
  rw [hresidue]

/-- A field of 1 to 32 digits is never at fault. -/
theorem failsOnly_encode (hw : 0 < width) (hw' : width ≤ 32) :
    (encode value width s).FailsOnly fun e => e.isInternal = false := by
  by_cases hin : lowest s width ≤ value ∧ value ≤ highest s width
  · rw [encode_of_mem hw hw' hin.1 hin.2]
    exact .of_ok _
  · rw [encode_of_not_mem hw hw' (by omega)]
    exact .of_fail rfl

end Outcomes

end BitField

namespace Assembly
open Operands

/-- A numeral resolves to the integer it denotes, cut off at the largest magnitude. -/
theorem resolveTarget_of_read? {t : Text} {n : Numeral} (h : Numeral.read? t = some n) :
    resolveTarget t = .ok n.saturated := by
  have hd := Numeral.denotes_of_read? h
  have hread := Literal.read_of_denotes hd
  by_cases hfits : fitsSignedWord n.value = true
  · have hmagnitude : n.magnitude ≤ Numeral.largestMagnitude := by
      have hrange := fitsSignedWord_iff.mp hfits
      rw [← Numeral.natAbs_value, Numeral.largestMagnitude]
      omega
    rw [if_pos hfits] at hread
    simp [resolveTarget, hread, Numeral.saturated_eq_value hmagnitude]
  · rw [if_neg hfits] at hread
    simp [resolveTarget, hread, Text.trim_of_trimmed hd.solid.trimmed, h]

/-- A target that is no numeral stays unresolved, whatever its lexemes are. -/
theorem resolveTarget_of_not_denotes {t : Text} (ht : IsTarget t)
    (h : ∀ radix v, ¬ Denotes radix t v) : resolveTarget t = .error (.unresolvedLabel t) := by
  have htrimmed := ht.trimmed
  have hnone : Numeral.read? (Text.trim t) = none := by
    rw [Text.trim_of_trimmed htrimmed, Option.eq_none_iff_forall_not_mem]
    intro n hn
    exact h _ _ (Numeral.denotes_of_read? hn)
  unfold resolveTarget
  split
  · next radix v hread => exact absurd ((read_number_iff htrimmed).mp hread).1 (h radix v)
  · next s hread =>
    rw [Literal.read_eq_symbol_iff, Token.ofText_eq_ok_singleton_iff htrimmed] at hread
    have hslice : t = s := hread.word_slice rfl
    rw [hslice]
  · rw [hnone]
  · rfl

/-- The operands that the templates of a kind yield: the slots that its fields are made of, and no
others. -/
inductive Supplied : Kind → Operands → Prop
  | threeRegisters (rd rs rt : Register) :
      Supplied .threeRegisters { rd := some rd, rs := some rs, rt := some rt }
  | shift (rd rt : Register) {amount : Nat} (small : amount < 32) :
      Supplied .shift { rd := some rd, rt := some rt, shiftAmount := some amount }
  | immediate (rs rt : Register) (value : Int) :
      Supplied .immediate { rs := some rs, rt := some rt, immediate := some value }
  | branch (rs rt : Register) {label : Text} (target : IsTarget label) :
      Supplied .branch { rs := some rs, rt := some rt, label := some label }
  | jump {label : Text} (target : IsTarget label) : Supplied .jump { label := some label }

/-- The fields of operands. A number in a label counts as the integer it denotes. -/
inductive Encodes (d : Definition) : Kind → Operands → Fields → Prop
  | threeRegisters {funct : Text} (code : d.funct = some funct) (rd rs rt : Register) :
      Encodes d .threeRegisters { rd := some rd, rs := some rs, rt := some rt }
        { opcode := d.opcode, rs := some (Bits.ofNat 5 rs.number),
          rt := some (Bits.ofNat 5 rt.number), rd := some (Bits.ofNat 5 rd.number),
          shamt := some (Bits.ofNat 5 0), funct := some funct }
  | shift {funct : Text} (code : d.funct = some funct) (rd rt : Register) {amount : Nat}
      (small : amount < 32) :
      Encodes d .shift { rd := some rd, rt := some rt, shiftAmount := some amount }
        { opcode := d.opcode, rs := some (Bits.ofNat 5 0), rt := some (Bits.ofNat 5 rt.number),
          rd := some (Bits.ofNat 5 rd.number), shamt := some (Bits.ofNat 5 amount),
          funct := some funct }
  | immediate (rs rt : Register) {value : Int} (low : -32768 ≤ value) (high : value ≤ 32767) :
      Encodes d .immediate { rs := some rs, rt := some rt, immediate := some value }
        { opcode := d.opcode, rs := some (Bits.ofNat 5 rs.number),
          rt := some (Bits.ofNat 5 rt.number),
          immediate := some (Bits.ofNat 16 (value % 2 ^ 16).toNat) }
  | branch (rs rt : Register) {radix : Radix} {label : Text} {value : Int}
      (denotes : Denotes radix label value) (low : -32768 ≤ value) (high : value ≤ 32767) :
      Encodes d .branch { rs := some rs, rt := some rt, label := some label }
        { opcode := d.opcode, rs := some (Bits.ofNat 5 rs.number),
          rt := some (Bits.ofNat 5 rt.number),
          immediate := some (Bits.ofNat 16 (value % 2 ^ 16).toNat) }
  | jump {radix : Radix} {label : Text} {address : Int} (denotes : Denotes radix label address)
      (low : 0 ≤ address) (high : address < 2 ^ 28) (aligned : 4 ∣ address) :
      Encodes d .jump { label := some label }
        { opcode := d.opcode, address := some (Bits.ofNat 26 (address / 4).toNat) }

/-- Why operands of a kind can still be refused. -/
inductive Refusal : Kind → EncodingError → Prop
  | immediate (value : Int) : Refusal .immediate (.outOfRange value (-32768) 32767)
  | branch (value : Int) : Refusal .branch (.outOfRange value (-32768) 32767)
  | branchLabel (label : Text) : Refusal .branch (.unresolvedLabel label)
  | jump (words : Int) : Refusal .jump (.outOfRange words 0 (2 ^ 26 - 1))
  | jumpLabel (label : Text) : Refusal .jump (.unresolvedLabel label)
  | negative (address : Int) : Refusal .jump (.negativeAddress address)
  | misaligned (address : Int) : Refusal .jump (.misalignedAddress address)

/-- What the pieces of a template yield, template by template. -/
inductive Filled : Kind → List Role → List Text → Operands → Prop
  | threeRegisters {a b c : Text} {rd rs rt : Register} (hrd : (a, rd.number) ∈ Register.names)
      (hrs : (b, rs.number) ∈ Register.names) (hrt : (c, rt.number) ∈ Register.names) :
      Filled .threeRegisters [.rd, .rs, .rt] [a, b, c]
        { rd := some rd, rs := some rs, rt := some rt }
  | shift {a b c : Text} {rd rt : Register} {amount : Nat} (hrd : (a, rd.number) ∈ Register.names)
      (hrt : (b, rt.number) ∈ Register.names) (denotes : Denotes .decimal c amount)
      (small : amount < 32) :
      Filled .shift [.rd, .rt, .shamt] [a, b, c]
        { rd := some rd, rt := some rt, shiftAmount := some amount }
  | immediate {a b c : Text} {rs rt : Register} {radix : Radix} {value : Int}
      (hrt : (a, rt.number) ∈ Register.names) (hrs : (b, rs.number) ∈ Register.names)
      (denotes : Denotes radix c value) :
      Filled .immediate [.rt, .rs, .immediate] [a, b, c]
        { rs := some rs, rt := some rt, immediate := some value }
  | memory {a b : Text} {base rt : Register} {offset : Int} (hrt : (a, rt.number) ∈ Register.names)
      (spells : SpellsMemory b offset base) (fits : fitsSignedWord offset = true) :
      Filled .immediate [.rt, .offsetBase] [a, b]
        { rs := some base, rt := some rt, immediate := some offset }
  | branch {a b c : Text} {rs rt : Register} (hrs : (a, rs.number) ∈ Register.names)
      (hrt : (b, rt.number) ∈ Register.names) (target : IsTarget c) :
      Filled .branch [.rs, .rt, .label] [a, b, c] { rs := some rs, rt := some rt, label := some c }
  | jump {a : Text} (target : IsTarget a) :
      Filled .jump [.targetAddress] [a] { label := some a }

theorem filled_of_fillsAll {k : Kind} {roles : List Role} (hroles : roles ∈ k.templates)
    {ps : List Text} (hlen : ps.length = roles.length) {ops : Operands}
    (h : FillsAll {} (roles.zip ps) ops) : Filled k roles ps ops := by
  cases k with
  | threeRegisters =>
    obtain rfl : roles = [.rd, .rs, .rt] := by simpa [Kind.templates] using hroles
    obtain ⟨a, b, c, rfl⟩ := List.length_eq_three.mp hlen
    obtain ⟨_, ⟨rd, hrd, rfl⟩, _, ⟨rs, hrs, rfl⟩, _, ⟨rt, hrt, rfl⟩, rfl⟩ := h
    exact .threeRegisters hrd hrs hrt
  | shift =>
    obtain rfl : roles = [.rd, .rt, .shamt] := by simpa [Kind.templates] using hroles
    obtain ⟨a, b, c, rfl⟩ := List.length_eq_three.mp hlen
    obtain ⟨_, ⟨rd, hrd, rfl⟩, _, ⟨rt, hrt, rfl⟩, _, ⟨amount, denotes, small, rfl⟩, rfl⟩ := h
    exact .shift hrd hrt denotes small
  | immediate =>
    have hroles' : roles = [.rt, .rs, .immediate] ∨ roles = [.rt, .offsetBase] := by
      simpa [Kind.templates] using hroles
    rcases hroles' with rfl | rfl
    · obtain ⟨a, b, c, rfl⟩ := List.length_eq_three.mp hlen
      obtain ⟨_, ⟨rt, hrt, rfl⟩, _, ⟨rs, hrs, rfl⟩, _, ⟨radix, value, denotes, -, rfl⟩, rfl⟩ := h
      exact .immediate hrt hrs denotes
    · obtain ⟨a, b, rfl⟩ := List.length_eq_two.mp hlen
      obtain ⟨_, ⟨rt, hrt, rfl⟩, _, ⟨offset, base, spells, fits, rfl⟩, rfl⟩ := h
      exact .memory hrt spells fits
  | branch =>
    obtain rfl : roles = [.rs, .rt, .label] := by simpa [Kind.templates] using hroles
    obtain ⟨a, b, c, rfl⟩ := List.length_eq_three.mp hlen
    obtain ⟨_, ⟨rs, hrs, rfl⟩, _, ⟨rt, hrt, rfl⟩, _, ⟨target, rfl⟩, rfl⟩ := h
    exact .branch hrs hrt target
  | jump =>
    obtain rfl : roles = [.targetAddress] := by simpa [Kind.templates] using hroles
    obtain ⟨a, rfl⟩ := List.length_eq_one_iff.mp hlen
    obtain ⟨_, ⟨target, rfl⟩, rfl⟩ := h
    exact .jump target

theorem Filled.supplied {k : Kind} {roles : List Role} {ps : List Text} {ops : Operands}
    (h : Filled k roles ps ops) : Supplied k ops := by
  cases h with
  | threeRegisters hrd hrs hrt => exact .threeRegisters _ _ _
  | shift hrd hrt denotes small => exact .shift _ _ small
  | immediate hrt hrs denotes => exact .immediate _ _ _
  | memory hrt spells fits => exact .immediate _ _ _
  | branch hrs hrt target => exact .branch _ _ target
  | jump target => exact .jump target

/-- The operands read by the template of a definition are those that its kind asks for. -/
theorem supplied_of_read {d : Definition} (hd : d ∈ Catalog.definitions) {operands : Option Text}
    {ops : Operands} (h : (Operands.read operands d.template).outcome = .ok ops) :
    Supplied d.kind ops := by
  obtain ⟨roles, hmem, hroles⟩ := (Catalog.wellFormed hd).template
  obtain ⟨t, -, hlen, hfills⟩ := (read_eq_ok_iff hroles).mp h
  exact (filled_of_fillsAll hmem hlen hfills).supplied

@[simp] theorem registerBits_some (r : Register) (field : Text) :
    registerBits (some r) field = Run.ok (Bits.ofNat 5 r.number) :=
  BitField.encode_five r.number.isLt

theorem resolveTarget_of_denotes {radix : Radix} {t : Text} {v : Int} (h : Denotes radix t v) :
    resolveTarget t = .ok (max (-(2 ^ 63 - 1)) (min (2 ^ 63 - 1) v)) := by
  obtain ⟨n, hn, -, rfl⟩ := Numeral.read?_of_denotes h
  rw [resolveTarget_of_read? hn, Numeral.saturated_eq_clamp]

theorem fieldsOf_of_encodes {d : Definition} {ops : Operands} {f : Fields}
    (h : Encodes d d.kind ops f) : fieldsOf d ops = Run.ok f := by
  generalize hk : d.kind = k at h
  cases h with
  | threeRegisters code rd rs rt =>
    obtain ⟨hformat, hzeroes⟩ := Definition.kind_eq_iff.mp hk
    simp [fieldsOf, hformat, registerFields, hzeroes, withFunct, code]
  | shift code rd rt small =>
    obtain ⟨hformat, hzeroes⟩ := Definition.kind_eq_iff.mp hk
    simp [fieldsOf, hformat, registerFields, hzeroes, shiftAmount, withFunct, code,
      BitField.encode_five small]
  | immediate rs rt low high =>
    obtain ⟨hformat, hbranches⟩ := Definition.kind_eq_iff.mp hk
    simp [fieldsOf, hformat, immediateFields, immediateValue, hbranches,
      BitField.encode_sixteen low high]
  | @branch rs rt radix label value denotes low high =>
    obtain ⟨hformat, hbranches⟩ := Definition.kind_eq_iff.mp hk
    have htarget : resolveTarget label = .ok value := by
      rw [resolveTarget_of_denotes denotes]
      congr 1
      omega
    simp [fieldsOf, hformat, immediateFields, immediateValue, hbranches, htarget,
      BitField.encode_sixteen low high]
  | @jump radix label address denotes low high aligned =>
    have hformat : d.format = .jump := Definition.kind_eq_iff.mp hk
    have htarget : resolveTarget label = .ok address := by
      rw [resolveTarget_of_denotes denotes]
      congr 1
      omega
    have hwords : wordAddress address = .ok (address / 4) := by
      rw [wordAddress, if_neg (by omega), if_neg (by omega)]
    have hbits := BitField.encode_twentySix (n := address / 4) (by omega) (by omega)
    simp [fieldsOf, hformat, jumpFields, jumpAddress, htarget, hwords, hbits]

section BranchTargets

variable {d : Definition} {rs rt : Register} {label : Text}

theorem fieldsOf_branch_of_not_mem (hkind : d.kind = .branch) {value : Int}
    (htarget : resolveTarget label = .ok value) (hout : value < -32768 ∨ 32767 < value) :
    fieldsOf d { rs := some rs, rt := some rt, label := some label } =
      Run.fail (.outOfRange value (-32768) 32767) := by
  obtain ⟨hformat, hbranches⟩ := Definition.kind_eq_iff.mp hkind
  simp [fieldsOf, hformat, immediateFields, immediateValue, hbranches, htarget,
    BitField.encode_sixteen_fail hout]

theorem fieldsOf_branch_of_not_denotes (hkind : d.kind = .branch) (ht : IsTarget label)
    (h : ∀ radix v, ¬ Denotes radix label v) :
    fieldsOf d { rs := some rs, rt := some rt, label := some label } =
      Run.fail (.unresolvedLabel label) := by
  obtain ⟨hformat, hbranches⟩ := Definition.kind_eq_iff.mp hkind
  simp [fieldsOf, hformat, immediateFields, immediateValue, hbranches,
    resolveTarget_of_not_denotes ht h]

end BranchTargets

section JumpTargets

variable {d : Definition} {label : Text} {address : Int}

theorem fieldsOf_jump_of_negative (hformat : d.format = .jump)
    (htarget : resolveTarget label = .ok address) (hnegative : address < 0) :
    fieldsOf d { label := some label } = Run.fail (.negativeAddress address) := by
  have hwords : wordAddress address = .error (.negativeAddress address) := by
    rw [wordAddress, if_pos hnegative]
  simp [fieldsOf, hformat, jumpFields, jumpAddress, htarget, hwords]

theorem fieldsOf_jump_of_misaligned (hformat : d.format = .jump)
    (htarget : resolveTarget label = .ok address) (hlow : 0 ≤ address)
    (hmisaligned : ¬ 4 ∣ address) :
    fieldsOf d { label := some label } = Run.fail (.misalignedAddress address) := by
  have hwords : wordAddress address = .error (.misalignedAddress address) := by
    rw [wordAddress, if_neg (by omega), if_pos (by omega)]
  simp [fieldsOf, hformat, jumpFields, jumpAddress, htarget, hwords]

theorem fieldsOf_jump_of_large (hformat : d.format = .jump)
    (htarget : resolveTarget label = .ok address) (haligned : 4 ∣ address)
    (hlarge : 2 ^ 28 ≤ address) :
    fieldsOf d { label := some label } = Run.fail (.outOfRange (address / 4) 0 (2 ^ 26 - 1)) := by
  have hwords : wordAddress address = .ok (address / 4) := by
    rw [wordAddress, if_neg (by omega), if_neg (by omega)]
  have hbits := BitField.encode_twentySix_fail (n := address / 4) (by omega)
  simp [fieldsOf, hformat, jumpFields, jumpAddress, htarget, hwords, hbits]

theorem fieldsOf_jump_of_not_denotes (hformat : d.format = .jump) (ht : IsTarget label)
    (h : ∀ radix v, ¬ Denotes radix label v) :
    fieldsOf d { label := some label } = Run.fail (.unresolvedLabel label) := by
  simp [fieldsOf, hformat, jumpFields, jumpAddress, resolveTarget_of_not_denotes ht h]

end JumpTargets

/-- Operands of the right kind without fields are refused for a cause of that kind. -/
theorem exists_refusal {d : Definition} (hd : d ∈ Catalog.definitions) {ops : Operands}
    (hs : Supplied d.kind ops) (hno : ∀ f, ¬ Encodes d d.kind ops f) :
    ∃ e, Refusal d.kind e ∧ fieldsOf d ops = Run.fail e := by
  generalize hk : d.kind = k at hs hno
  cases hs with
  | threeRegisters rd rs rt =>
    have hformat := (Definition.kind_eq_iff.mp hk).1
    obtain ⟨funct, hfunct⟩ := (Catalog.wellFormed hd).functGiven hformat
    exact absurd (.threeRegisters hfunct rd rs rt) (hno _)
  | shift rd rt small =>
    have hformat := (Definition.kind_eq_iff.mp hk).1
    obtain ⟨funct, hfunct⟩ := (Catalog.wellFormed hd).functGiven hformat
    exact absurd (.shift hfunct rd rt small) (hno _)
  | immediate rs rt value =>
    obtain ⟨hformat, hbranches⟩ := Definition.kind_eq_iff.mp hk
    have hout : value < -32768 ∨ 32767 < value := by
      by_contra hin
      exact hno _ (.immediate rs rt (by omega) (by omega))
    refine ⟨_, .immediate value, ?_⟩
    simp [fieldsOf, hformat, immediateFields, immediateValue, hbranches,
      BitField.encode_sixteen_fail hout]
  | @branch rs rt label target =>
    by_cases hd : ∃ radix v, Denotes radix label v
    · obtain ⟨radix, v, hd⟩ := hd
      have hout : v < -32768 ∨ 32767 < v := by
        by_contra hin
        exact hno _ (.branch rs rt hd (by omega) (by omega))
      have htarget := resolveTarget_of_denotes hd
      exact ⟨_, .branch _, fieldsOf_branch_of_not_mem hk htarget (by omega)⟩
    · simp only [not_exists] at hd
      exact ⟨_, .branchLabel label, fieldsOf_branch_of_not_denotes hk target hd⟩
  | @jump label target =>
    have hformat : d.format = .jump := Definition.kind_eq_iff.mp hk
    by_cases hd : ∃ radix v, Denotes radix label v
    · obtain ⟨radix, v, hd⟩ := hd
      have htarget := resolveTarget_of_denotes hd
      generalize hclamp : max (-(2 ^ 63 - 1)) (min (2 ^ 63 - 1) v) = address at htarget
      by_cases hnegative : address < 0
      · exact ⟨_, .negative address, fieldsOf_jump_of_negative hformat htarget hnegative⟩
      by_cases haligned : 4 ∣ address
      · -- an address that fits would have fields, so this one is too large
        have hlarge : 2 ^ 28 ≤ address := by
          by_contra hsmall
          have hv : v = address := by omega
          exact hno _ (.jump hd (by omega) (by omega) (by omega))
        exact ⟨_, .jump (address / 4), fieldsOf_jump_of_large hformat htarget haligned hlarge⟩
      · exact ⟨_, .misaligned address,
          fieldsOf_jump_of_misaligned hformat htarget (by omega) haligned⟩
    · simp only [not_exists] at hd
      exact ⟨_, .jumpLabel label, fieldsOf_jump_of_not_denotes hformat target hd⟩

theorem Encodes.concat_digits {d : Definition} (hd : d ∈ Catalog.definitions) {ops : Operands}
    {f : Fields} (h : Encodes d d.kind ops f) :
    f.concat.length = 32 ∧ f.concat.all Bits.isDigit = true := by
  obtain ⟨hlen, hdigits⟩ := (Catalog.wellFormed hd).opcode
  generalize d.kind = k at h
  cases h with
  | threeRegisters code rd rs rt =>
    obtain ⟨hlen', hdigits'⟩ := (Catalog.wellFormed hd).funct code
    simp [Fields.concat, Fields.entries, hlen, hlen', hdigits, hdigits', Bits.all_isDigit_ofNat]
  | shift code rd rt small =>
    obtain ⟨hlen', hdigits'⟩ := (Catalog.wellFormed hd).funct code
    simp [Fields.concat, Fields.entries, hlen, hlen', hdigits, hdigits', Bits.all_isDigit_ofNat]
  | immediate rs rt low high =>
    simp [Fields.concat, Fields.entries, hlen, hdigits, Bits.all_isDigit_ofNat]
  | branch rs rt denotes low high =>
    simp [Fields.concat, Fields.entries, hlen, hdigits, Bits.all_isDigit_ofNat]
  | jump denotes low high aligned =>
    simp [Fields.concat, Fields.entries, hlen, hdigits, Bits.all_isDigit_ofNat]

theorem assemble_of_encodes {d : Definition} (hd : d ∈ Catalog.definitions) {ops : Operands}
    {f : Fields} (h : Encodes d d.kind ops f) : assemble d ops = Run.ok ⟨f.concat, f⟩ := by
  obtain ⟨hlen, hdigits⟩ := h.concat_digits hd
  have hsize : f.concat.byteSize = wordBits := by
    rw [Bits.byteSize_eq_length hdigits, hlen, wordBits]
  simp [assemble, fieldsOf_of_encodes h, ofFields, hsize]

theorem outcome_assemble_of_fail {d : Definition} {ops : Operands} {e : EncodingError}
    (h : fieldsOf d ops = Run.fail e) : (assemble d ops).outcome = .error e := by
  simp [assemble, h]

/-- Operands of the right kind are encoded without a record, or refused without one. -/
theorem assemble_cases {d : Definition} (hd : d ∈ Catalog.definitions) {ops : Operands}
    (hs : Supplied d.kind ops) :
    (∃ f, Encodes d d.kind ops f ∧ assemble d ops = Run.ok ⟨f.concat, f⟩) ∨
      ∃ e, Refusal d.kind e ∧ assemble d ops = Run.fail e := by
  by_cases h : ∃ f, Encodes d d.kind ops f
  · obtain ⟨f, hf⟩ := h
    exact .inl ⟨f, hf, assemble_of_encodes hd hf⟩
  · simp only [not_exists] at h
    obtain ⟨e, he, hfields⟩ := exists_refusal hd hs h
    refine .inr ⟨e, he, ?_⟩
    simp [assemble, hfields]

end Assembly

end MipsEncoding
