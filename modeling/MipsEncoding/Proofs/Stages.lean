import MipsEncoding.Interpretation
import MipsEncoding.Proofs.Encoding

/-! The stages of an interpretation. `Interprets` collects what the stages establish about a line
that is accepted, and a line is accepted exactly if there is an interpretation with all of it. -/
namespace MipsEncoding

/-- What the stages establish about a line and its interpretation. -/
structure Interprets (line : Text) (i : Interpretation) : Prop where
  source : i.source = line
  split : Instruction.ofLine line = .ok i.instruction
  listed : i.definition ∈ Catalog.definitions
  named : i.definition.mnemonic = i.instruction.mnemonic
  read : (Operands.read i.instruction.operands i.definition.template).outcome = .ok i.operands
  encodes : Assembly.Encodes i.definition i.definition.kind i.operands i.fields
  binary : i.binary = i.fields.concat
  hex : i.hex = "0x".toList ++ Word.nibbles i.binary

namespace Interprets

variable {line : Text} {i : Interpretation}

theorem binary_digits (h : Interprets line i) :
    i.binary.length = 32 ∧ i.binary.all Bits.isDigit = true := by
  rw [h.binary]
  exact h.encodes.concat_digits h.listed

theorem word (h : Interprets line i) :
    ∃ w, i.word? = some w ∧ w.toNat = Bits.toNat i.binary := by
  obtain ⟨hlen, hdigits⟩ := h.binary_digits
  have hw : i.word? = _ := Word.ofBinary?_of_digits hlen hdigits
  exact ⟨_, hw, Word.toNat_ofBinary? hlen hdigits hw⟩

theorem binary_eq_fixedWidth (h : Interprets line i) :
    i.binary = Text.fixedWidth 2 32 (Bits.toNat i.binary) := by
  obtain ⟨hlen, hdigits⟩ := h.binary_digits
  have hlt : Bits.toNat i.binary < 2 ^ 32 := by simpa only [hlen] using Bits.toNat_lt i.binary
  have hread := Bits.ofNat_toNat hdigits
  rw [hlen, Bits.ofNat_eq_fixedWidth hlt] at hread
  exact hread.symm

theorem hex_eq_fixedWidth (h : Interprets line i) :
    i.hex = "0x".toList ++ (Text.fixedWidth 16 8 (Bits.toNat i.binary)).map Char.toUpper := by
  rw [h.hex, Word.nibbles_eq_fixedWidth (k := 7) h.binary_digits.1]

end Interprets

theorem interpret_eq_ok_iff {line : Text} {i : Interpretation} :
    (interpret line).outcome = .ok i ↔ Interprets line i := by
  have hstages : (interpret line).outcome = (Interpretation.ofLine line).outcome := rfl
  rw [hstages]
  simp only [Interpretation.ofLine, Run.outcome_bind, Run.outcome_note, bind_eq_ok_iff,
    Run.outcome_mapError_eq_ok_iff, Run.outcome_ofExcept, Catalog.find_eq_ok_iff, Run.outcome_pure]
  constructor
  · rintro ⟨instruction, hsplit, -, -, d, ⟨hd, hname⟩, ops, hread, -, -, a, hassemble, hex, hhex,
      hi⟩
    have hsupplied := Assembly.supplied_of_read hd hread
    obtain ⟨f, hf, ha⟩ | ⟨e, -, he⟩ := Assembly.assemble_cases hd hsupplied
    · obtain ⟨hlen, hdigits⟩ := hf.concat_digits hd
      rw [ha] at hassemble
      cases hassemble
      rw [Word.hexOfBinary_of_digits hlen hdigits] at hhex
      cases hhex
      cases hi
      exact ⟨rfl, hsplit, hd, hname, hread, hf, rfl, rfl⟩
    · rw [he] at hassemble
      cases hassemble
  · intro h
    obtain ⟨hlen, hdigits⟩ := h.binary_digits
    have hassemble := Assembly.assemble_of_encodes h.listed h.encodes
    have hhex := Word.hexOfBinary_of_digits hlen hdigits
    rw [← h.binary] at hassemble
    rw [← h.hex] at hhex
    refine ⟨_, h.split, (), trivial, _, ⟨h.listed, h.named⟩, _, h.read, (), trivial,
      ⟨i.binary, i.fields⟩, ?_, i.hex, ?_, ?_⟩
    · rw [hassemble, Run.outcome_ok]
    · rw [hhex, Run.outcome_ok]
    · rw [← h.source]

theorem Interprets.unique {line : Text} {i i' : Interpretation} (h : Interprets line i)
    (h' : Interprets line i') : i = i' :=
  Except.ok.inj ((interpret_eq_ok_iff.mpr h).symm.trans (interpret_eq_ok_iff.mpr h'))

end MipsEncoding
