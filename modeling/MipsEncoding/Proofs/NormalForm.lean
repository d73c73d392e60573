import MipsEncoding.Proofs.Layouts
import MipsEncoding.Proofs.Lowercasing

/-! The normal form of a line. What stands in front of the comment of a line is empty but for blanks,
or it is an instruction: a name, then operands behind at least one blank if there are any. Written
down again with a single space between the two, the instruction is found as it is. -/
namespace MipsEncoding.Instruction
open Text

/-- An instruction as a line of its own. -/
def text (i : Instruction) : Text :=
  match i.operands with
  | none => i.mnemonic
  | some operands => i.mnemonic ++ ' ' :: operands

/-- The texts without blanks around them that an instruction is written as in front of a comment. -/
inductive Trims : Text → Instruction → Prop
  | bare {word : Text} (nonempty : word ≠ []) (solid : Solid word) :
      Trims word ⟨lowercase word, none⟩
  | withOperands {word gap operands : Text} (nonempty : word ≠ []) (solid : Solid word)
      (gapNonempty : gap ≠ []) (gapBlank : Blank gap) (given : operands ≠ [])
      (unmarked : '#' ∉ operands) (trimmed : Trimmed operands) :
      Trims (word ++ gap ++ operands) ⟨lowercase word, some operands⟩

section Lines

variable {line : Text} {i : Instruction}

theorem ofLine_eq_error_iff {e : LineError} :
    ofLine line = .error e ↔ e = .empty ∧ Blank (before '#' line) := by
  unfold ofLine
  split
  · next h =>
    rw [List.isEmpty_iff, code, trim_eq_nil_iff] at h
    simp [h]
  · next h =>
    rw [List.isEmpty_iff, code, trim_eq_nil_iff] at h
    simp [h]

theorem mem_of_mem_trim {t : Text} {c : Char} (h : c ∈ trim t) : c ∈ t := by
  obtain ⟨w, w', -, -, ht⟩ := exists_eq_append_trim t
  rw [ht]
  simp [h]

theorem solid_lowercase {word : Text} (h : Solid word) : Solid (lowercase word) := by
  intro c hc
  rw [Bool.eq_false_iff]
  intro hblank
  rw [h c (mem_of_mem_lowercase hc (.inl hblank))] at hblank
  cases hblank

/-- A text without a comment is all there is in front of one. -/
theorem before_eq_self {t : Text} (h : '#' ∉ t) : before '#' t = t := by
  simpa using before_append h (.inl rfl)

theorem Trims.of_written {t : Text} (h : Written t i) (hmark : '#' ∉ t) : Trims (trim t) i := by
  cases h with
  | bare left solid nonempty right =>
    rw [trim_append left solid.trimmed right]
    exact .bare nonempty solid
  | @withOperands w word gap operands w' left solid nonempty gapBlank gapNonempty trimmed given right =>
    have hcore := solid.trimmed.append_append trimmed nonempty given gap
    have htext : w ++ word ++ gap ++ operands ++ w' = w ++ (word ++ gap ++ operands) ++ w' := by simp
    rw [htext, trim_append left hcore right]
    exact .withOperands nonempty solid gapNonempty gapBlank given (by simp_all) trimmed

/-- The instruction is written as before, with its name in lower case already. -/
theorem Trims.ofLine_text {t : Text} (h : Trims t i) (hmark : '#' ∉ t) : ofLine i.text = .ok i := by
  rw [ofLine_eq_ok_iff]
  cases h with
  | bare nonempty solid =>
    have hlower := Written.bare blank_nil (solid_lowercase solid) (lowercase_ne_nil nonempty) blank_nil
    have hunmarked := fun hmem => hmark (mem_of_mem_lowercase hmem (.inr rfl))
    rw [text, before_eq_self hunmarked]
    simpa [lowercase_lowercase] using hlower
  | @withOperands word gap operands nonempty solid gapNonempty gapBlank given unmarked trimmed =>
    have hspace : Blank [' '] := blank_cons.mpr ⟨by decide, blank_nil⟩
    have hlower := Written.withOperands blank_nil (solid_lowercase solid) (lowercase_ne_nil nonempty)
      hspace (List.cons_ne_nil ' ' []) trimmed given blank_nil
    have hword : '#' ∉ lowercase word :=
      fun hmem => hmark (by simp [mem_of_mem_lowercase hmem (.inr rfl)])
    rw [text, before_eq_self (by simp [hword, unmarked])]
    simpa [lowercase_lowercase] using hlower

end Lines

/-- What is found on a line depends on the text in front of its comment: nothing where that is blank,
else an instruction in normal form, which is found again on the line that it makes up itself. -/
theorem ofLine_normal_form (line : Text) :
    ∃ code comment, line = code ++ comment ∧ '#' ∉ code ∧
      (comment = [] ∨ ∃ note, comment = '#' :: note) ∧
      (ofLine line = .error .empty ↔ ∀ c ∈ code, isBlank c = true) ∧
      ((∃ c ∈ code, isBlank c = false) →
        ∃ i, ofLine line = .ok i ∧ Trims (trim code) i ∧ ofLine i.text = .ok i) := by
  obtain ⟨comment, hline, hmark, hcomment⟩ := exists_comment line
  have herror : ofLine line = .error .empty ↔ Blank (before '#' line) := by
    rw [ofLine_eq_error_iff, eq_self, true_and]
  refine ⟨before '#' line, comment, hline, hmark, hcomment, herror, ?_⟩
  rintro ⟨c, hc, hvisible⟩
  cases hfound : ofLine line with
  | error e =>
    cases e
    rw [herror.mp hfound c hc] at hvisible
    cases hvisible
  | ok i =>
    have htrims := Trims.of_written (written_of_ofLine hfound) hmark
    exact ⟨i, rfl, htrims, htrims.ofLine_text fun hmem => hmark (mem_of_mem_trim hmem)⟩

/-- A final sigma stays one, and the blanks beyond ASCII are blanks, too. -/
theorem ofLine_normal_form_sigma :
    ∃ i, ofLine "\u00A0\u039F\u03A3\u2003$t0,\t4 # note".toList = .ok i ∧ ofLine i.text = .ok i ∧
      i.text = "\u03BF\u03C2 $t0,\t4".toList := by
  obtain ⟨code, comment, hline, hmark, hcomment, -, hfound⟩ :=
    ofLine_normal_form "\u00A0\u039F\u03A3\u2003$t0,\t4 # note".toList
  have hcode : before '#' "\u00A0\u039F\u03A3\u2003$t0,\t4 # note".toList = code := by
    rw [hline, before_append hmark hcomment]
  obtain ⟨i, hi, -, hagain⟩ := hfound ⟨'4', by rw [← hcode]; decide +kernel, by decide⟩
  have htext : (ofLine "\u00A0\u039F\u03A3\u2003$t0,\t4 # note".toList).toOption.map text =
      some "\u03BF\u03C2 $t0,\t4".toList := by
    decide +kernel
  rw [hi] at htext
  exact ⟨i, hi, hagain, Option.some.inj htext⟩

end MipsEncoding.Instruction
