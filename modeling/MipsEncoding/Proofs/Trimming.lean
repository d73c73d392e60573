import Mathlib.Data.List.DropRight
import MipsEncoding.Instruction

/-! Trimming, and the instruction on a line. Trimming a text takes off exactly the blanks around its
core; `Instruction.ofLine` finds exactly the ways to write an instruction in front of a comment. -/
namespace MipsEncoding.Text

/-- A text of blanks only, which may be empty. -/
def Blank (t : Text) : Prop := ∀ c ∈ t, isBlank c = true

/-- A text without any blank. -/
def Solid (t : Text) : Prop := ∀ c ∈ t, isBlank c = false

instance (t : Text) : Decidable (Blank t) := List.decidableBAll (isBlank · = true) t

instance (t : Text) : Decidable (Solid t) := List.decidableBAll (isBlank · = false) t

/-- A text that neither starts nor ends with a blank. -/
structure Trimmed (t : Text) : Prop where
  head : ∀ c ∈ t.head?, isBlank c = false
  last : ∀ c ∈ t.getLast?, isBlank c = false

/-- The longest run from the start of a text ends where its characters stop to belong to it. -/
theorem takeWhile_append_stop {p : Char → Bool} {s t : Text} (hs : ∀ c ∈ s, p c = true)
    (ht : ∀ c ∈ t.head?, p c = false) : (s ++ t).takeWhile p = s := by
  rw [List.takeWhile_append_of_pos hs]
  cases t with
  | nil => simp
  | cons c t => simp [ht c (by simp)]

theorem dropWhile_append_stop {p : Char → Bool} {s t : Text} (hs : ∀ c ∈ s, p c = true)
    (ht : ∀ c ∈ t.head?, p c = false) : (s ++ t).dropWhile p = t := by
  rw [List.dropWhile_append_of_pos hs]
  cases t with
  | nil => rfl
  | cons c t => simp [ht c (by simp)]

theorem head?_dropWhile {p : Char → Bool} (t : Text) : ∀ c ∈ (t.dropWhile p).head?, p c = false := by
  intro c hc
  have h := List.head?_dropWhile_not p t
  rw [Option.mem_def.mp hc] at h
  simpa using h

theorem blank_nil : Blank [] := by simp [Blank]

theorem blank_append {s t : Text} : Blank (s ++ t) ↔ Blank s ∧ Blank t := List.forall_mem_append

theorem blank_cons {c : Char} {t : Text} : Blank (c :: t) ↔ isBlank c = true ∧ Blank t :=
  List.forall_mem_cons

theorem Solid.trimmed {t : Text} (ht : Solid t) : Trimmed t :=
  ⟨fun c hc => ht c (List.mem_of_mem_head? hc), fun c hc => ht c (List.mem_of_mem_getLast? hc)⟩

theorem Trimmed.eq_nil_of_append {w s w' : Text} (h : Trimmed (w ++ s ++ w')) (hw : Blank w)
    (hw' : Blank w') : w = [] ∧ w' = [] := by
  constructor
  · cases w with
    | nil => rfl
    | cons c w =>
      have := h.head c (by simp)
      rw [hw c (by simp)] at this
      cases this
  · by_contra hne
    have hlast := List.getLast?_eq_some_getLast hne
    have := h.last (w'.getLast hne) (by rw [List.getLast?_append_of_ne_nil _ hne, hlast]; rfl)
    rw [hw' _ (List.getLast_mem hne)] at this
    cases this

/-- Whatever stands between two trimmed texts that are not empty, the whole is trimmed. -/
theorem Trimmed.append_append {s t : Text} (hs : Trimmed s) (ht : Trimmed t) (hs' : s ≠ [])
    (ht' : t ≠ []) (gap : Text) : Trimmed (s ++ gap ++ t) := by
  constructor
  · intro c hc
    rw [List.append_assoc, List.head?_append_of_ne_nil _ hs'] at hc
    exact hs.head c hc
  · intro c hc
    rw [List.getLast?_append_of_ne_nil _ ht'] at hc
    exact ht.last c hc

theorem trimEnd_eq_rdropWhile (t : Text) : trimEnd t = t.rdropWhile isBlank := rfl

theorem trimStart_append {w : Text} (hw : Blank w) (t : Text) : trimStart (w ++ t) = trimStart t :=
  List.dropWhile_append_of_pos hw

theorem trimStart_eq_self {t : Text} (h : ∀ c ∈ t.head?, isBlank c = false) : trimStart t = t := by
  exact dropWhile_append_stop (s := []) (by simp) h

theorem trimEnd_append {w : Text} (hw : Blank w) (t : Text) : trimEnd (t ++ w) = trimEnd t := by
  have hr : ∀ c ∈ w.reverse, isBlank c = true := fun c hc => hw c (List.mem_reverse.mp hc)
  simp only [trimEnd, List.reverse_append, List.dropWhile_append_of_pos hr]

theorem trimEnd_eq_self {t : Text} (h : ∀ c ∈ t.getLast?, isBlank c = false) : trimEnd t = t := by
  rw [trimEnd_eq_rdropWhile, List.rdropWhile_eq_self_iff]
  intro hne
  simp [h _ (List.getLast?_eq_some_getLast hne)]

/-- Trimming takes blanks off both sides of a trimmed core. -/
theorem trim_append {w w' t : Text} (hw : Blank w) (ht : Trimmed t) (hw' : Blank w') :
    trim (w ++ t ++ w') = t := by
  rw [trim, List.append_assoc, trimStart_append hw]
  cases t with
  | nil =>
    rw [List.nil_append, trimStart, List.dropWhile_eq_nil_iff.mpr hw']
    rfl
  | cons c t =>
    rw [trimStart_eq_self (by simpa using ht.head), trimEnd_append hw', trimEnd_eq_self ht.last]

theorem trim_of_trimmed {t : Text} (ht : Trimmed t) : trim t = t := by
  simpa using trim_append blank_nil ht blank_nil

theorem trimmed_trim (t : Text) : Trimmed (trim t) := by
  constructor
  · intro c hc
    -- the end of the text is cut off from a text that already starts without a blank
    obtain ⟨u, hu⟩ : trim t <+: trimStart t := List.rdropWhile_prefix isBlank _
    have hne : trim t ≠ [] := by
      rintro h
      simp [h] at hc
    apply head?_dropWhile t c
    rw [← trimStart, ← hu, List.head?_append_of_ne_nil _ hne]
    exact hc
  · intro c hc
    rw [trim, trimEnd, List.getLast?_reverse] at hc
    exact head?_dropWhile _ c hc

/-- A text with blanks around a core. -/
@[ext] structure Padded where
  left : Text
  core : Text
  right : Text
  leftBlank : Blank left
  rightBlank : Blank right

namespace Padded

def text (p : Padded) : Text := p.left ++ p.core ++ p.right

/-- The blanks that trimming takes off a text, and what it leaves. -/
def ofText (t : Text) : Padded where
  left := t.takeWhile isBlank
  core := trim t
  right := ((trimStart t).reverse.takeWhile isBlank).reverse
  leftBlank := fun _ hc => List.mem_takeWhile_imp hc
  rightBlank := fun _ hc => List.mem_takeWhile_imp (List.mem_reverse.mp hc)

@[simp] theorem text_ofText (t : Text) : (ofText t).text = t := by
  simp only [text, ofText, trim, trimEnd]
  rw [List.append_assoc, ← List.reverse_append, List.takeWhile_append_dropWhile,
    List.reverse_reverse, trimStart, List.takeWhile_append_dropWhile]

/-- Around a trimmed core that is not empty there is only one way to tell the blanks from it. -/
theorem ofText_text {p : Padded} (ht : Trimmed p.core) (hne : p.core ≠ []) :
    ofText p.text = p := by
  have hhead : ∀ c ∈ (p.core ++ p.right).head?, isBlank c = false := by
    rw [List.head?_append_of_ne_nil _ hne]
    exact ht.head
  have hlast : ∀ c ∈ p.core.reverse.head?, isBlank c = false := by
    rw [List.head?_reverse]
    exact ht.last
  have hright : ∀ c ∈ p.right.reverse, isBlank c = true :=
    fun c hc => p.rightBlank c (List.mem_reverse.mp hc)
  have hstart : trimStart p.text = p.core ++ p.right := by
    rw [text, List.append_assoc]
    exact dropWhile_append_stop p.leftBlank hhead
  ext1
  · change p.text.takeWhile isBlank = p.left
    rw [text, List.append_assoc]
    exact takeWhile_append_stop p.leftBlank hhead
  · exact trim_append p.leftBlank ht p.rightBlank
  · change ((trimStart p.text).reverse.takeWhile isBlank).reverse = p.right
    rw [hstart, List.reverse_append, takeWhile_append_stop hright hlast, List.reverse_reverse]

end Padded

theorem exists_eq_append_trim (t : Text) :
    ∃ w w', Blank w ∧ Blank w' ∧ t = w ++ trim t ++ w' :=
  ⟨_, _, (Padded.ofText t).leftBlank, (Padded.ofText t).rightBlank, (Padded.text_ofText t).symm⟩

theorem trim_blank_append {w : Text} (hw : Blank w) (t : Text) : trim (w ++ t) = trim t := by
  rw [trim, trimStart_append hw, ← trim]

theorem trim_append_blank {w : Text} (hw : Blank w) (t : Text) : trim (t ++ w) = trim t := by
  obtain ⟨u, u', hu, hu', ht⟩ := exists_eq_append_trim t
  have htext : t ++ w = u ++ trim t ++ (u' ++ w) := by
    conv_lhs => rw [ht]
    simp
  rw [htext, trim_append hu (trimmed_trim t) (blank_append.mpr ⟨hu', hw⟩)]

theorem trim_eq_nil_iff {t : Text} : trim t = [] ↔ Blank t := by
  constructor
  · intro h
    obtain ⟨w, w', hw, hw', ht⟩ := exists_eq_append_trim t
    rw [ht, h, List.append_nil, blank_append]
    exact ⟨hw, hw'⟩
  · intro h
    simpa using trim_append h (t := []) ⟨by simp, by simp⟩ blank_nil

theorem splitAtBlank_of_solid {t : Text} (ht : Solid t) : splitAtBlank t = (t, none) := by
  have h : t.dropWhile (!isBlank ·) = [] := by
    rw [List.dropWhile_eq_nil_iff]
    intro c hc
    simp [ht c hc]
  simp [splitAtBlank, h]

/-- A text is cut at its first blank, which belongs to neither part. -/
theorem splitAtBlank_append {s t : Text} {c : Char} (hs : Solid s) (hc : isBlank c = true) :
    splitAtBlank (s ++ c :: t) = (s, some t) := by
  have hs' : ∀ x ∈ s, (!isBlank x) = true := fun x hx => by simp [hs x hx]
  have hc' : ∀ x ∈ (c :: t).head?, (!isBlank x) = false := by simp [hc]
  simp [splitAtBlank, dropWhile_append_stop hs' hc', takeWhile_append_stop hs' hc']

theorem solid_or_exists_blank (t : Text) :
    Solid t ∨ ∃ s c rest, Solid s ∧ isBlank c = true ∧ t = s ++ c :: rest := by
  induction t with
  | nil => exact .inl (by simp [Solid])
  | cons c t ih =>
    by_cases hc : isBlank c = true
    · exact .inr ⟨[], c, t, by simp [Solid], hc, rfl⟩
    · have hc' : isBlank c = false := by simpa using hc
      rcases ih with ht | ⟨s, b, rest, hs, hb, rfl⟩
      · exact .inl (List.forall_mem_cons.mpr ⟨hc', ht⟩)
      · exact .inr ⟨c :: s, b, rest, List.forall_mem_cons.mpr ⟨hc', hs⟩, hb, rfl⟩

end MipsEncoding.Text

namespace MipsEncoding.Instruction
open Text

/-- The ways to write an instruction where there is no comment: a word without blanks, then the
operands after at least one blank, if there are any. -/
inductive Written : Text → Instruction → Prop
  | bare {w word w' : Text} (left : Blank w) (solid : Solid word) (nonempty : word ≠ [])
      (right : Blank w') : Written (w ++ word ++ w') ⟨lowercase word, none⟩
  | withOperands {w word gap operands w' : Text} (left : Blank w) (solid : Solid word)
      (nonempty : word ≠ []) (gapBlank : Blank gap) (gapNonempty : gap ≠ [])
      (trimmed : Trimmed operands) (given : operands ≠ []) (right : Blank w') :
      Written (w ++ word ++ gap ++ operands ++ w') ⟨lowercase word, some operands⟩

theorem ofLine_of_code {line word : Text} {rest : Option Text} (hne : code line ≠ [])
    (h : splitAtBlank (code line) = (word, rest)) :
    ofLine line = .ok ⟨lowercase word, rest.bind operandText⟩ := by
  simp [ofLine, hne, h]

theorem operandText_append {w operands w' : Text} (hw : Blank w) (ho : Trimmed operands)
    (hne : operands ≠ []) (hw' : Blank w') : operandText (w ++ operands ++ w') = some operands := by
  have h := trim_append hw ho hw'
  simp only [operandText, h]
  simp [hne]

theorem ofLine_of_written {line : Text} {i : Instruction} (h : Written (before '#' line) i) :
    ofLine line = .ok i := by
  generalize hb : before '#' line = text at h
  cases h with
  | @bare w word w' left solid nonempty right =>
    have hcode : code line = word := by rw [code, hb, trim_append left solid.trimmed right]
    have hsplit : splitAtBlank (code line) = (word, none) := by
      rw [hcode, splitAtBlank_of_solid solid]
    rw [ofLine_of_code (by rwa [hcode]) hsplit]
    rfl
  | @withOperands w word gap operands w' left solid nonempty gapBlank gapNonempty trimmed given
      right =>
    have hcore := solid.trimmed.append_append trimmed nonempty given gap
    have hcode : code line = word ++ gap ++ operands := by
      rw [code, hb, ← trim_append left hcore right]
      simp only [List.append_assoc]
    obtain ⟨c, gap, rfl⟩ := List.exists_cons_of_ne_nil gapNonempty
    obtain ⟨hc, hgap⟩ := blank_cons.mp gapBlank
    have hsplit : splitAtBlank (code line) = (word, some (gap ++ operands)) := by
      rw [hcode, List.append_assoc, List.cons_append, splitAtBlank_append solid hc]
    rw [ofLine_of_code (by simp [hcode, nonempty]) hsplit]
    have htext := operandText_append hgap trimmed given blank_nil
    rw [List.append_nil] at htext
    simp [htext]

theorem written_of_ofLine {line : Text} {i : Instruction} (h : ofLine line = .ok i) :
    Written (before '#' line) i := by
  by_cases hne : code line = []
  · simp [ofLine, hne] at h
  obtain ⟨w, w', hw, hw', hb⟩ := exists_eq_append_trim (before '#' line)
  have htrim : Trimmed (code line) := trimmed_trim _
  rw [hb]
  change Written (w ++ code line ++ w') i
  rcases solid_or_exists_blank (code line) with hs | ⟨word, c, rest, hs, hc, hcode⟩
  · rw [ofLine_of_code hne (splitAtBlank_of_solid hs)] at h
    cases h
    exact .bare hw hs hne hw'
  · rw [ofLine_of_code hne (by rw [hcode, splitAtBlank_append hs hc])] at h
    cases h
    have hword : word ≠ [] := by
      rintro rfl
      have := htrim.head c (by simp [hcode])
      rw [hc] at this
      cases this
    obtain ⟨u, u', hu, hu', hrest⟩ := exists_eq_append_trim rest
    have hgap : Blank (c :: u) := blank_cons.mpr ⟨hc, hu⟩
    by_cases hempty : trim rest = []
    · have hrest' : Blank (c :: rest ++ w') :=
        blank_append.mpr ⟨blank_cons.mpr ⟨hc, trim_eq_nil_iff.mp hempty⟩, hw'⟩
      have := Written.bare hw hs hword hrest'
      simpa [hcode, operandText, hempty] using this
    · have := Written.withOperands hw hs hword hgap (List.cons_ne_nil c u) (trimmed_trim rest)
        hempty (blank_append.mpr ⟨hu', hw'⟩)
      have htext : w ++ code line ++ w' = w ++ word ++ (c :: u) ++ trim rest ++ (u' ++ w') := by
        rw [hcode]
        conv_lhs => rw [hrest]
        simp
      rw [htext]
      simpa [operandText, hempty] using this

/-- An instruction is found on a line exactly if it is written there in front of the comment. -/
theorem ofLine_eq_ok_iff {line : Text} {i : Instruction} :
    ofLine line = .ok i ↔ Written (before '#' line) i :=
  ⟨written_of_ofLine, ofLine_of_written⟩

end MipsEncoding.Instruction
