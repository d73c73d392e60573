import MipsEncoding.Proofs.ReferenceWord

/-! Decoding. The word of an accepted line determines the instruction and what its operands mean:
the codes are found at fixed places of the word, and each kind of instruction has its operands at
fixed places, too. -/
namespace MipsEncoding

/-- Operands that mean the same. Only the spelling of a number in a label may differ. -/
structure Operands.SameMeaning (ops ops' : Operands) : Prop where
  rd : ops.rd = ops'.rd
  rs : ops.rs = ops'.rs
  rt : ops.rt = ops'.rt
  shiftAmount : ops.shiftAmount = ops'.shiftAmount
  immediate : ops.immediate = ops'.immediate
  label : (ops.label = none ∧ ops'.label = none) ∨
    ∃ label label' radix radix' v, ops.label = some label ∧ ops'.label = some label' ∧
      Denotes radix label v ∧ Denotes radix' label' v

theorem Register.eq_of_number {r r' : Register} (h : (r.number : Nat) = r'.number) : r = r' := by
  cases r
  cases r'
  congr
  exact Fin.ext h

theorem Fields.exists_concat_eq (f : Fields) : ∃ rest, f.concat = f.opcode ++ rest := by
  simp [concat, entries]

namespace Assembly.Encodes

variable {d d' : Definition} {ops ops' : Operands} {f f' : Fields}

theorem opcode_eq {k : Kind} (h : Encodes d k ops f) : f.opcode = d.opcode := by
  cases h <;> rfl

/-- The opcode stands in the upper six bits. -/
theorem toNat_concat_div (hd : d ∈ Catalog.definitions) (h : Encodes d d.kind ops f) :
    Bits.toNat f.concat / 2 ^ 26 = Bits.toNat d.opcode := by
  obtain ⟨rest, hrest⟩ := f.exists_concat_eq
  have hlen := (h.concat_digits hd).1
  have hopcode := (Catalog.wellFormed hd).opcode.1
  rw [hrest, h.opcode_eq, List.length_append, hopcode] at hlen
  have hlt := Bits.toNat_lt rest
  have hlow : rest.length = 26 := by omega
  rw [hrest, h.opcode_eq, Bits.toNat_append, hlow]
  rw [hlow] at hlt
  omega

/-- The function code stands in the lower six bits. -/
theorem toNat_concat_mod (hd : d ∈ Catalog.definitions) (hformat : d.format = .register)
    (h : Encodes d d.kind ops f) :
    ∃ funct, d.funct = some funct ∧ Bits.toNat f.concat % 2 ^ 6 = Bits.toNat funct := by
  have hlow : ∀ {funct : Text}, d.funct = some funct →
      funct.length = 6 ∧ Bits.toNat funct < 2 ^ 6 := by
    intro funct hfunct
    have hlen := ((Catalog.wellFormed hd).funct hfunct).1
    have hlt := Bits.toNat_lt funct
    rw [hlen] at hlt
    exact ⟨hlen, hlt⟩
  rcases Definition.kind_of_register hformat with hk | hk
  · rw [hk] at h
    cases h with
    | threeRegisters code rd rs rt =>
      obtain ⟨hlen, hlt⟩ := hlow code
      refine ⟨_, code, ?_⟩
      rw [Fields.toNat_register (by simp) (by simp) (by simp) (by simp) hlen]
      omega
  · rw [hk] at h
    cases h with
    | shift code rd rt small =>
      obtain ⟨hlen, hlt⟩ := hlow code
      refine ⟨_, code, ?_⟩
      rw [Fields.toNat_register (by simp) (by simp) (by simp) (by simp) hlen]
      omega

/-- The codes in a word belong to one definition only. -/
theorem definition_eq (hd : d ∈ Catalog.definitions) (hd' : d' ∈ Catalog.definitions)
    (h : Encodes d d.kind ops f) (h' : Encodes d' d'.kind ops' f')
    (hword : Bits.toNat f.concat = Bits.toNat f'.concat) : d = d' := by
  apply Catalog.eq_of_codes hd hd'
  · obtain ⟨hlen, hdigits⟩ := (Catalog.wellFormed hd).opcode
    obtain ⟨hlen', hdigits'⟩ := (Catalog.wellFormed hd').opcode
    apply Bits.eq_of_toNat_eq (hlen.trans hlen'.symm) hdigits hdigits'
    rw [← h.toNat_concat_div hd, ← h'.toNat_concat_div hd', hword]
  · intro hformat hformat'
    obtain ⟨funct, hfunct, hlow⟩ := h.toNat_concat_mod hd hformat
    obtain ⟨funct', hfunct', hlow'⟩ := h'.toNat_concat_mod hd' hformat'
    obtain ⟨hlen, hdigits⟩ := (Catalog.wellFormed hd).funct hfunct
    obtain ⟨hlen', hdigits'⟩ := (Catalog.wellFormed hd').funct hfunct'
    have hvalue : Bits.toNat funct = Bits.toNat funct' := by rw [← hlow, ← hlow', hword]
    rw [hfunct, hfunct', Bits.eq_of_toNat_eq (hlen.trans hlen'.symm) hdigits hdigits' hvalue]

theorem sameMeaning (hd : d ∈ Catalog.definitions) (h : Encodes d d.kind ops f)
    (h' : Encodes d d.kind ops' f') (hword : Bits.toNat f.concat = Bits.toNat f'.concat) :
    f = f' ∧ ops.SameMeaning ops' := by
  generalize d.kind = k at h h'
  cases h with
  | @threeRegisters funct code rd rs rt =>
    cases h' with
    | @threeRegisters funct' code' rd' rs' rt' =>
      obtain rfl : funct = funct' := Option.some.inj (code.symm.trans code')
      have hlen := ((Catalog.wellFormed hd).funct code).1
      rw [Fields.toNat_register (by simp) (by simp) (by simp) (by simp) hlen,
        Fields.toNat_register (by simp) (by simp) (by simp) (by simp) hlen] at hword
      simp only [Bits.toNat_ofNat] at hword
      obtain rfl : rd = rd' := Register.eq_of_number (by omega)
      obtain rfl : rs = rs' := Register.eq_of_number (by omega)
      obtain rfl : rt = rt' := Register.eq_of_number (by omega)
      exact ⟨rfl, rfl, rfl, rfl, rfl, rfl, .inl ⟨rfl, rfl⟩⟩
  | @shift funct code rd rt amount small =>
    cases h' with
    | @shift funct' code' rd' rt' amount' small' =>
      obtain rfl : funct = funct' := Option.some.inj (code.symm.trans code')
      have hlen := ((Catalog.wellFormed hd).funct code).1
      rw [Fields.toNat_register (by simp) (by simp) (by simp) (by simp) hlen,
        Fields.toNat_register (by simp) (by simp) (by simp) (by simp) hlen] at hword
      simp only [Bits.toNat_ofNat] at hword
      obtain rfl : rd = rd' := Register.eq_of_number (by omega)
      obtain rfl : rt = rt' := Register.eq_of_number (by omega)
      obtain rfl : amount = amount' := by omega
      exact ⟨rfl, rfl, rfl, rfl, rfl, rfl, .inl ⟨rfl, rfl⟩⟩
  | @immediate rs rt v low high =>
    cases h' with
    | @immediate rs' rt' v' low' high' =>
      rw [Fields.toNat_immediate (by simp) (by simp) (by simp),
        Fields.toNat_immediate (by simp) (by simp) (by simp)] at hword
      simp only [Bits.toNat_ofNat] at hword
      obtain rfl : rs = rs' := Register.eq_of_number (by omega)
      obtain rfl : rt = rt' := Register.eq_of_number (by omega)
      obtain rfl : v = v' := by omega
      exact ⟨rfl, rfl, rfl, rfl, rfl, rfl, .inl ⟨rfl, rfl⟩⟩
  | @branch rs rt radix label v denotes low high =>
    cases h' with
    | @branch rs' rt' radix' label' v' denotes' low' high' =>
      rw [Fields.toNat_immediate (by simp) (by simp) (by simp),
        Fields.toNat_immediate (by simp) (by simp) (by simp)] at hword
      simp only [Bits.toNat_ofNat] at hword
      obtain rfl : rs = rs' := Register.eq_of_number (by omega)
      obtain rfl : rt = rt' := Register.eq_of_number (by omega)
      obtain rfl : v = v' := by omega
      exact ⟨rfl, rfl, rfl, rfl, rfl, rfl, .inr ⟨_, _, _, _, v, rfl, rfl, denotes, denotes'⟩⟩
  | @jump radix label address denotes low high aligned =>
    cases h' with
    | @jump radix' label' address' denotes' low' high' aligned' =>
      rw [Fields.toNat_jump (by simp), Fields.toNat_jump (by simp)] at hword
      simp only [Bits.toNat_ofNat] at hword
      obtain rfl : address = address' := by omega
      exact ⟨rfl, rfl, rfl, rfl, rfl, rfl, .inr ⟨_, _, _, _, address, rfl, rfl, denotes, denotes'⟩⟩

end Assembly.Encodes

namespace Interprets

variable {line₁ line₂ : Text} {i₁ i₂ : Interpretation}

theorem word_eq_iff (h₁ : Interprets line₁ i₁) (h₂ : Interprets line₂ i₂) :
    i₁.word? = i₂.word? ↔ i₁.binary = i₂.binary := by
  obtain ⟨hlen₁, hdigits₁⟩ := h₁.binary_digits
  obtain ⟨hlen₂, hdigits₂⟩ := h₂.binary_digits
  obtain ⟨w₁, hw₁, hvalue₁⟩ := h₁.word
  obtain ⟨w₂, hw₂, hvalue₂⟩ := h₂.word
  constructor
  · intro h
    rw [hw₁, hw₂] at h
    cases h
    have hvalue : Bits.toNat i₁.binary = Bits.toNat i₂.binary := hvalue₁.symm.trans hvalue₂
    exact Bits.eq_of_toNat_eq (hlen₁.trans hlen₂.symm) hdigits₁ hdigits₂ hvalue
  · intro h
    rw [Interpretation.word?, h, Interpretation.word?]

theorem hex_eq_iff (h₁ : Interprets line₁ i₁) (h₂ : Interprets line₂ i₂) :
    i₁.hex = i₂.hex ↔ i₁.binary = i₂.binary := by
  obtain ⟨hlen₁, hdigits₁⟩ := h₁.binary_digits
  obtain ⟨hlen₂, hdigits₂⟩ := h₂.binary_digits
  rw [h₁.hex, h₂.hex, List.append_cancel_left_eq]
  constructor
  · exact Word.nibbles_injective (k := 8) hlen₁ hlen₂ hdigits₁ hdigits₂
  · intro h
    rw [h]

end Interprets

/-- Accepted lines with the same word, or with the same hexadecimal form, have the same instruction,
and operands that mean the same. -/
theorem interpret_word_determines {line₁ line₂ : Text} {i₁ i₂ : Interpretation}
    (h₁ : (interpret line₁).outcome = .ok i₁) (h₂ : (interpret line₂).outcome = .ok i₂) :
    (i₁.word? = i₂.word? ↔ i₁.hex = i₂.hex) ∧
      (i₁.word? = i₂.word? → i₁.instruction.mnemonic = i₂.instruction.mnemonic ∧
        i₁.definition = i₂.definition ∧ i₁.definition.format = i₂.definition.format ∧
        i₁.fields = i₂.fields ∧ i₁.operands.SameMeaning i₂.operands) := by
  have hi₁ := interpret_eq_ok_iff.mp h₁
  have hi₂ := interpret_eq_ok_iff.mp h₂
  rw [hi₁.word_eq_iff hi₂, hi₁.hex_eq_iff hi₂]
  refine ⟨Iff.rfl, ?_⟩
  intro hbinary
  have hword : Bits.toNat i₁.fields.concat = Bits.toNat i₂.fields.concat := by
    rw [← hi₁.binary, ← hi₂.binary, hbinary]
  have hdefinition := hi₁.encodes.definition_eq hi₁.listed hi₂.listed hi₂.encodes hword
  have hencodes₂ := hi₂.encodes
  rw [← hdefinition] at hencodes₂
  obtain ⟨hfields, hmeaning⟩ := hi₁.encodes.sameMeaning hi₁.listed hencodes₂ hword
  refine ⟨?_, hdefinition, by rw [hdefinition], hfields, hmeaning⟩
  rw [← hi₁.named, ← hi₂.named, hdefinition]

theorem interpret_word_determines_branch :
    ∃ i₁ i₂, (interpret "beq $t0, $t1, -0x10".toList).outcome = .ok i₁ ∧
      (interpret "BEQ $t0,$t1, -016 # back".toList).outcome = .ok i₂ ∧
      i₁.word? = i₂.word? ∧ i₁.fields = i₂.fields ∧ i₁.operands.SameMeaning i₂.operands := by
  have hrun₁ : ((interpret "beq $t0, $t1, -0x10".toList).outcome.toOption.map (·.hex)) =
      some "0x1109FFF0".toList := by
    decide +kernel
  have hrun₂ : ((interpret "BEQ $t0,$t1, -016 # back".toList).outcome.toOption.map (·.hex)) =
      some "0x1109FFF0".toList := by
    decide +kernel
  obtain ⟨i₁, hi₁, hhex₁⟩ := exists_ok_of_toOption_map hrun₁
  obtain ⟨i₂, hi₂, hhex₂⟩ := exists_ok_of_toOption_map hrun₂
  obtain ⟨hiff, hsame⟩ := interpret_word_determines hi₁ hi₂
  have hword := hiff.mpr (hhex₁.trans hhex₂.symm)
  obtain ⟨-, -, -, hfields, hmeaning⟩ := hsame hword
  exact ⟨i₁, i₂, hi₁, hi₂, hword, hfields, hmeaning⟩

end MipsEncoding
