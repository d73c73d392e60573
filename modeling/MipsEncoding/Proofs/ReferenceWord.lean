import MipsEncoding.Proofs.Stages

/-! The word of an accepted line. `ReferenceWord` computes it by place value from the operands and
from the codes of the definition. The digits of the line's interpretation, in binary, in hexadecimal
and field by field, are those of this number. -/
namespace MipsEncoding

/-- The fields of a format and their widths, from the most significant bits down. -/
def Format.layout : Format → List (Text × Nat)
  | register => [("opcode".toList, 6), ("rs".toList, 5), ("rt".toList, 5), ("rd".toList, 5),
      ("shamt".toList, 5), ("funct".toList, 6)]
  | immediate => [("opcode".toList, 6), ("rs".toList, 5), ("rt".toList, 5),
      ("immediate".toList, 16)]
  | jump => [("opcode".toList, 6), ("address".toList, 26)]

/-- The word that a definition prescribes for operands. -/
inductive ReferenceWord (d : Definition) (ops : Operands) : Kind → Nat → Prop
  | threeRegisters {rd rs rt : Register} {funct : Text} (code : d.funct = some funct)
      (hrd : ops.rd = some rd) (hrs : ops.rs = some rs) (hrt : ops.rt = some rt) :
      ReferenceWord d ops .threeRegisters (rs.number * 2 ^ 21 + rt.number * 2 ^ 16 +
        rd.number * 2 ^ 11 + Bits.placeValue funct)
  | shift {rd rt : Register} {amount : Nat} {funct : Text} (code : d.funct = some funct)
      (hrd : ops.rd = some rd) (hrt : ops.rt = some rt) (hamount : ops.shiftAmount = some amount)
      (small : amount < 32) :
      ReferenceWord d ops .shift (rt.number * 2 ^ 16 + rd.number * 2 ^ 11 + amount * 2 ^ 6 +
        Bits.placeValue funct)
  | immediate {rs rt : Register} {value : Int} (hrs : ops.rs = some rs) (hrt : ops.rt = some rt)
      (hvalue : ops.immediate = some value) (low : -32768 ≤ value) (high : value ≤ 32767) :
      ReferenceWord d ops .immediate (Bits.placeValue d.opcode * 2 ^ 26 + rs.number * 2 ^ 21 +
        rt.number * 2 ^ 16 + (value % 2 ^ 16).toNat)
  | branch {rs rt : Register} {label : Text} {radix : Radix} {value : Int}
      (hrs : ops.rs = some rs) (hrt : ops.rt = some rt) (hlabel : ops.label = some label)
      (denotes : Denotes radix label value) (low : -32768 ≤ value) (high : value ≤ 32767) :
      ReferenceWord d ops .branch (Bits.placeValue d.opcode * 2 ^ 26 + rs.number * 2 ^ 21 +
        rt.number * 2 ^ 16 + (value % 2 ^ 16).toNat)
  | jump {label : Text} {radix : Radix} {address : Nat} (hlabel : ops.label = some label)
      (denotes : Denotes radix label address) (small : address < 2 ^ 28)
      (aligned : address % 4 = 0) :
      ReferenceWord d ops .jump (Bits.placeValue d.opcode * 2 ^ 26 + address / 4)

theorem ReferenceWord.of_eq {d : Definition} {ops : Operands} {k : Kind} {m n : Nat}
    (h : ReferenceWord d ops k m) (heq : n = m) : ReferenceWord d ops k n := heq ▸ h

namespace Fields

variable {opcode rs rt rd shamt funct immediate address : Text}

theorem toNat_register (hrs : rs.length = 5) (hrt : rt.length = 5) (hrd : rd.length = 5)
    (hshamt : shamt.length = 5) (hfunct : funct.length = 6) :
    Bits.toNat (concat { opcode, rs := some rs, rt := some rt, rd := some rd,
                         shamt := some shamt, funct := some funct }) =
      Bits.toNat opcode * 2 ^ 26 + Bits.toNat rs * 2 ^ 21 + Bits.toNat rt * 2 ^ 16 +
        Bits.toNat rd * 2 ^ 11 + Bits.toNat shamt * 2 ^ 6 + Bits.toNat funct := by
  simp [concat, entries, Bits.toNat_append, hrs, hrt, hrd, hshamt, hfunct]
  omega

theorem toNat_immediate (hrs : rs.length = 5) (hrt : rt.length = 5)
    (himmediate : immediate.length = 16) :
    Bits.toNat (concat { opcode, rs := some rs, rt := some rt, immediate := some immediate }) =
      Bits.toNat opcode * 2 ^ 26 + Bits.toNat rs * 2 ^ 21 + Bits.toNat rt * 2 ^ 16 +
        Bits.toNat immediate := by
  simp [concat, entries, Bits.toNat_append, hrs, hrt, himmediate]
  omega

theorem toNat_jump (haddress : address.length = 26) :
    Bits.toNat (concat { opcode, address := some address }) =
      Bits.toNat opcode * 2 ^ 26 + Bits.toNat address := by
  simp [concat, entries, Bits.toNat_append, haddress]

end Fields

namespace Assembly.Encodes

variable {d : Definition} {ops : Operands} {f : Fields}

/-- The fields of operands are those of the format, each in its width. -/
theorem layout (hd : d ∈ Catalog.definitions) (h : Encodes d d.kind ops f) :
    f.entries.map (fun (name, bits) => (name, bits.length)) = d.format.layout := by
  have hopcode := (Catalog.wellFormed hd).opcode.1
  generalize hk : d.kind = k at h
  cases h with
  | threeRegisters code rd rs rt =>
    have hfunct := ((Catalog.wellFormed hd).funct code).1
    rw [(Definition.kind_eq_iff.mp hk).1]
    simp [Fields.entries, Format.layout, hopcode, hfunct]
  | shift code rd rt small =>
    have hfunct := ((Catalog.wellFormed hd).funct code).1
    rw [(Definition.kind_eq_iff.mp hk).1]
    simp [Fields.entries, Format.layout, hopcode, hfunct]
  | immediate rs rt low high =>
    rw [(Definition.kind_eq_iff.mp hk).1]
    simp [Fields.entries, Format.layout, hopcode]
  | branch rs rt denotes low high =>
    rw [(Definition.kind_eq_iff.mp hk).1]
    simp [Fields.entries, Format.layout, hopcode]
  | jump denotes low high aligned =>
    rw [Definition.kind_eq_iff.mp hk]
    simp [Fields.entries, Format.layout, hopcode]

theorem toNat_opcode_of_register (hd : d ∈ Catalog.definitions) (hf : d.format = .register) :
    Bits.toNat d.opcode = 0 := by
  rw [(Catalog.wellFormed hd).opcodeZero hf]
  rfl

/-- The fields of operands in one row denote the word of the operands. -/
theorem referenceWord (hd : d ∈ Catalog.definitions) (h : Encodes d d.kind ops f) :
    ReferenceWord d ops d.kind (Bits.toNat f.concat) := by
  have hopcode := Bits.placeValue_eq_toNat (Catalog.wellFormed hd).opcode.2
  generalize hk : d.kind = k at h
  cases h with
  | @threeRegisters funct code rd rs rt =>
    obtain ⟨hlen, hdigits⟩ := (Catalog.wellFormed hd).funct code
    have hfunct := Bits.placeValue_eq_toNat hdigits
    have hzero := toNat_opcode_of_register hd (Definition.kind_eq_iff.mp hk).1
    rw [Fields.toNat_register (by simp) (by simp) (by simp) (by simp) hlen]
    simp only [Bits.toNat_ofNat, hzero, ← hfunct]
    refine .of_eq (.threeRegisters code rfl rfl rfl) ?_
    omega
  | @shift funct code rd rt amount small =>
    obtain ⟨hlen, hdigits⟩ := (Catalog.wellFormed hd).funct code
    have hfunct := Bits.placeValue_eq_toNat hdigits
    have hzero := toNat_opcode_of_register hd (Definition.kind_eq_iff.mp hk).1
    rw [Fields.toNat_register (by simp) (by simp) (by simp) (by simp) hlen]
    simp only [Bits.toNat_ofNat, hzero, ← hfunct]
    refine .of_eq (.shift code rfl rfl rfl small) ?_
    omega
  | immediate rs rt low high =>
    rw [Fields.toNat_immediate (by simp) (by simp) (by simp)]
    simp only [Bits.toNat_ofNat, ← hopcode]
    refine .of_eq (.immediate rfl rfl rfl low high) ?_
    omega
  | branch rs rt denotes low high =>
    rw [Fields.toNat_immediate (by simp) (by simp) (by simp)]
    simp only [Bits.toNat_ofNat, ← hopcode]
    refine .of_eq (.branch rfl rfl rfl denotes low high) ?_
    omega
  | @jump radix label address denotes low high aligned =>
    lift address to Nat using low
    rw [Fields.toNat_jump (by simp)]
    simp only [Bits.toNat_ofNat, ← hopcode]
    refine .of_eq (.jump rfl denotes (by omega) (by omega)) ?_
    omega

end Assembly.Encodes

/-- Every accepted line has the word that the catalog prescribes for its operands, and its digits in
either base and in the fields are the digits of that word. -/
theorem interpret_referenceWord {line : Text} {i : Interpretation}
    (h : (interpret line).outcome = .ok i) :
    Catalog.find i.instruction.mnemonic = .ok i.definition ∧
      (∃ kind w, i.instruction.mnemonic ∈ kind.mnemonics ∧ i.word? = some w ∧
        ReferenceWord i.definition i.operands kind w.toNat ∧
        i.binary = Text.fixedWidth 2 32 w.toNat ∧
        i.hex = "0x".toList ++ (Text.fixedWidth 16 8 w.toNat).map Char.toUpper) ∧
      i.fields.entries.map (fun (name, bits) => (name, bits.length)) = i.definition.format.layout ∧
      i.fields.entries.flatMap (fun (_, bits) => bits) = i.binary := by
  have hi := interpret_eq_ok_iff.mp h
  obtain ⟨w, hw, hvalue⟩ := hi.word
  refine ⟨Catalog.find_eq_ok_iff.mpr ⟨hi.listed, hi.named⟩,
    ⟨i.definition.kind, w, ?_, hw, ?_, ?_, ?_⟩, hi.encodes.layout hi.listed, hi.binary.symm⟩
  · rw [← hi.named]
    exact (Catalog.wellFormed hi.listed).named
  · rw [hvalue, hi.binary]
    exact hi.encodes.referenceWord hi.listed
  · rw [hvalue]
    exact hi.binary_eq_fixedWidth
  · rw [hvalue]
    exact hi.hex_eq_fixedWidth

theorem interpret_referenceWord_store :
    ∃ i w, (interpret "  SW $ra, -0x4( $sp ) # save".toList).outcome = .ok i ∧ i.word? = some w ∧
      ReferenceWord i.definition i.operands .immediate w.toNat ∧
      i.hex = "0x".toList ++ (Text.fixedWidth 16 8 w.toNat).map Char.toUpper ∧
      i.hex = "0xAFBFFFFC".toList := by
  have hrun : ((interpret "  SW $ra, -0x4( $sp ) # save".toList).outcome.toOption.map
      fun i => (i.instruction.mnemonic, i.hex)) = some ("sw".toList, "0xAFBFFFFC".toList) := by
    decide +kernel
  obtain ⟨i, hi, hview⟩ := exists_ok_of_toOption_map hrun
  obtain ⟨hmnemonic, hhex⟩ := Prod.mk.inj hview
  obtain ⟨hfind, ⟨kind, w, hkind, hw, hword, -, hdigits⟩, -, -⟩ := interpret_referenceWord hi
  obtain rfl : kind = .immediate := by
    rw [hmnemonic] at hkind
    cases kind <;> simp_all [Kind.mnemonics]
  exact ⟨i, w, hi, hw, hword, hdigits, hhex⟩

end MipsEncoding
