import MipsEncoding.Interpretation
import MipsEncoding.Proofs.OperandPieces
import MipsEncoding.Proofs.Runs

/-! The layout of a line. Lines that are made of the same pieces are interpreted alike, whatever
blanks stand between the parts, whatever comment follows and whatever the case of the name. This
holds of malformed pieces too: a line is then rejected for the same cause. -/
namespace MipsEncoding
open Text

section Agreement

variable {ε α β α' β' : Type} {S : ε → ε → Prop} {R : α → β → Prop} {R' : α' → β' → Prop}

/-- Two outcomes that are both results, related by `R`, or both causes, related by `S`. -/
def Agree (S : ε → ε → Prop) (R : α → β → Prop) : Except ε α → Except ε β → Prop
  | .ok a, .ok b => R a b
  | .error e, .error e' => S e e'
  | _, _ => False

theorem Agree.self (hS : ∀ e, S e e) (x : Except ε α) : Agree S Eq x x := by
  cases x with
  | ok a => exact rfl
  | error e => exact hS e

/-- Sequences agree if their first parts do and the second parts do after agreeing results. -/
theorem Agree.bind {x : Except ε α} {y : Except ε β} {f : α → Except ε α'} {g : β → Except ε β'}
    (hxy : Agree S R x y) (hfg : ∀ a b, R a b → Agree S R' (f a) (g b)) :
    Agree S R' (x >>= f) (y >>= g) := by
  cases x with
  | ok a =>
    cases y with
    | ok b => exact hfg a b hxy
    | error e => exact hxy.elim
  | error e =>
    cases y with
    | ok b => exact hxy.elim
    | error e' => exact hxy

end Agreement

/-- The same cause, up to the operand text that is quoted where the number of operands is wrong. -/
inductive Failure.SameCause : Failure → Failure → Prop
  | refl (failure : Failure) : SameCause failure failure
  | wrongCount (template found found' : Text) :
      SameCause (.operand (.wrongCount template found)) (.operand (.wrongCount template found'))

/-- Interpretations that differ at most in how their lines are written. -/
structure Interpretation.SameEncoding (i i' : Interpretation) : Prop where
  definition : i.definition = i'.definition
  operands : i.operands = i'.operands
  fields : i.fields = i'.fields
  binary : i.binary = i'.binary
  hex : i.hex = i'.hex

namespace Operands

/-- The pieces of the operands on a line, which may have none. -/
def found : Option Text → List Text
  | none => []
  | some t => pieces t

theorem found_operandText (t : Text) :
    found (Instruction.operandText t) = if pieces t = [[]] then [] else pieces t := by
  by_cases h : Blank t
  · have htrim : trim t = [] := trim_eq_nil_iff.mpr h
    rw [if_pos (pieces_eq_nil_piece_iff.mpr h)]
    simp [Instruction.operandText, htrim, found]
  · have htrim : trim t ≠ [] := fun hnil => h (trim_eq_nil_iff.mp hnil)
    rw [if_neg fun hnil => h (pieces_eq_nil_piece_iff.mp hnil)]
    simp [Instruction.operandText, htrim, found, pieces_trim]

theorem read_eq_found (operands : Option Text) (template : Text) :
    read operands template =
      if (found operands).length ≠ (Template.parts template).length then
        Run.fail (.wrongCount template (operands.getD []))
      else Run.ofExcept (Template.roles template) >>= fun roles =>
        fill {} (roles.zip (found operands)) :=
  rfl

/-- Operands with the same pieces are read alike; only the text quoted for a wrong number differs. -/
theorem agree_read {operands operands' : Option Text} (h : found operands = found operands')
    (template : Text) :
    Agree Failure.SameCause Eq ((read operands template).mapError .operand).outcome
      ((read operands' template).mapError .operand).outcome := by
  rw [read_eq_found, read_eq_found, h]
  split
  · exact .wrongCount template _ _
  · exact Agree.self .refl _

end Operands

/-- Instructions that name the same mnemonic and have the same pieces as operands. -/
structure Instruction.Alike (i i' : Instruction) : Prop where
  mnemonic : i.mnemonic = i'.mnemonic
  pieces : Operands.found i.operands = Operands.found i'.operands

/-- After the line has been split, only the name and the pieces matter. -/
theorem agree_interpret {line line' : Text} {i i' : Instruction}
    (h : Instruction.ofLine line = .ok i) (h' : Instruction.ofLine line' = .ok i')
    (halike : i.Alike i') :
    Agree Failure.SameCause Interpretation.SameEncoding (interpret line).outcome
      (interpret line').outcome := by
  have hsplit : Agree Failure.SameCause Instruction.Alike
      ((Run.ofExcept (Instruction.ofLine line)).mapError Failure.line).outcome
      ((Run.ofExcept (Instruction.ofLine line')).mapError Failure.line).outcome := by
    rw [h, h']
    exact halike
  change Agree _ _ (Interpretation.ofLine line).outcome (Interpretation.ofLine line').outcome
  simp only [Interpretation.ofLine, Run.outcome_bind, Run.outcome_note]
  refine hsplit.bind fun i i' hi => ?_
  refine (Agree.self .refl (.ok ())).bind fun _ _ _ => ?_
  rw [hi.mnemonic]
  refine (Agree.self .refl _).bind fun d d' hd => ?_
  subst hd
  refine (Operands.agree_read hi.pieces d.template).bind fun ops ops' hops => ?_
  subst hops
  refine (Agree.self .refl (.ok ())).bind fun _ _ _ => ?_
  refine (Agree.self .refl _).bind fun assembly assembly' hassembly => ?_
  subst hassembly
  refine (Agree.self .refl _).bind fun hex hex' hhex => ?_
  subst hhex
  exact ⟨rfl, rfl, rfl, rfl, rfl⟩

/-- The ways to lay out a line: a name without blanks, then pieces with commas between them, with any
blanks around these parts, and possibly a comment behind them. -/
inductive LaidOut (word : Text) (ps : List Text) : Text → Prop
  | intro (w₀ w₁ body w₂ comment : Text) (leading : Blank w₀) (solid : Solid word)
      (nonempty : word ≠ []) (unmarked : '#' ∉ word) (gap : Blank w₁) (gapNonempty : w₁ ≠ [])
      (joined : Operands.Joined ps body) (unmarkedPieces : ∀ p ∈ ps, '#' ∉ p)
      (trailing : Blank w₂) (commented : comment = [] ∨ ∃ note, comment = '#' :: note) :
      LaidOut word ps (w₀ ++ word ++ w₁ ++ body ++ w₂ ++ comment)

theorem not_mem_of_blank {w : Text} (h : Blank w) : '#' ∉ w := by
  intro hmem
  have := h '#' hmem
  revert this
  decide

theorem Operands.Joined.not_mem {ps : List Text} {body : Text} (h : Joined ps body)
    (hps : ∀ p ∈ ps, '#' ∉ p) : '#' ∉ body := by
  induction h with
  | single piece => exact hps piece (by simp)
  | cons left right _ ih =>
    obtain ⟨hpiece, hrest⟩ := List.forall_mem_cons.mp hps
    simp [hpiece, not_mem_of_blank left, not_mem_of_blank right, ih hrest]

theorem before_append {s comment : Text} (hs : '#' ∉ s)
    (hcomment : comment = [] ∨ ∃ note, comment = '#' :: note) : before '#' (s ++ comment) = s := by
  apply takeWhile_append_stop
  · intro c hc
    simp only [bne_iff_ne, ne_eq]
    rintro rfl
    exact hs hc
  · rcases hcomment with rfl | ⟨note, rfl⟩ <;> simp

/-- A text is made of what stands in front of its comment and the comment, if there is one. -/
theorem exists_comment (t : Text) :
    ∃ comment, t = before '#' t ++ comment ∧ '#' ∉ before '#' t ∧
      (comment = [] ∨ ∃ note, comment = '#' :: note) := by
  refine ⟨t.dropWhile (· != '#'), (List.takeWhile_append_dropWhile).symm, ?_, ?_⟩
  · intro hmem
    simpa using List.mem_takeWhile_imp hmem
  · cases h : t.dropWhile (· != '#') with
    | nil => exact .inl rfl
    | cons c note =>
      have hc := head?_dropWhile (p := (· != '#')) t c (by simp [h])
      obtain rfl : c = '#' := by simpa using hc
      exact .inr ⟨note, rfl⟩

/-- The instruction on a line has the name in lower case and the operands as far as there are any. -/
theorem LaidOut.ofLine {word : Text} {ps : List Text} {line : Text} (h : LaidOut word ps line) :
    ∃ body, Operands.Joined ps body ∧
      Instruction.ofLine line = .ok ⟨lowercase word, Instruction.operandText body⟩ := by
  obtain ⟨w₀, w₁, body, w₂, comment, leading, solid, nonempty, unmarked, gap, gapNonempty, joined,
    unmarkedPieces, trailing, commented⟩ := h
  have hmark : '#' ∉ w₀ ++ word ++ w₁ ++ body ++ w₂ := by
    simp [not_mem_of_blank leading, unmarked, not_mem_of_blank gap, joined.not_mem unmarkedPieces,
      not_mem_of_blank trailing]
  refine ⟨body, joined, ?_⟩
  rw [Instruction.ofLine_eq_ok_iff, before_append hmark commented]
  by_cases hempty : trim body = []
  · have hblank : Blank (w₁ ++ body ++ w₂) :=
      blank_append.mpr ⟨blank_append.mpr ⟨gap, trim_eq_nil_iff.mp hempty⟩, trailing⟩
    have hwritten := Instruction.Written.bare leading solid nonempty hblank
    simpa [Instruction.operandText, hempty] using hwritten
  · obtain ⟨u, u', hu, hu', hbody⟩ := exists_eq_append_trim body
    have hwritten := Instruction.Written.withOperands leading solid nonempty
      (blank_append.mpr ⟨gap, hu⟩) (by simp [gapNonempty]) (trimmed_trim body) hempty
      (blank_append.mpr ⟨hu', trailing⟩)
    have htext : w₀ ++ word ++ w₁ ++ body ++ w₂ =
        w₀ ++ word ++ (w₁ ++ u) ++ trim body ++ (u' ++ w₂) := by
      conv_lhs => rw [hbody]
      simp
    rw [htext]
    simpa [Instruction.operandText, hempty] using hwritten

/-- Lines with the same pieces, and names that differ in case only, are interpreted alike. -/
theorem interpret_layout_agrees {word word' : Text} {ps : List Text} {line line' : Text}
    (h : LaidOut word ps line) (h' : LaidOut word' ps line')
    (hcase : lowercase word = lowercase word') (hps : Operands.Segments 0 ps) :
    Agree Failure.SameCause Interpretation.SameEncoding (interpret line).outcome
      (interpret line').outcome := by
  obtain ⟨body, hjoined, hline⟩ := h.ofLine
  obtain ⟨body', hjoined', hline'⟩ := h'.ofLine
  refine agree_interpret hline hline' ⟨hcase, ?_⟩
  simp only [Operands.found_operandText, hjoined.pieces_eq hps, hjoined'.pieces_eq hps]

/-- A store with its offset, written in two ways. -/
theorem interpret_layout_agrees_store :
    ∃ i i', (interpret "\tSW $ra ,-4( $sp )# save".toList).outcome = .ok i ∧
      (interpret "sw $ra,\n-4( $sp )".toList).outcome = .ok i' ∧ i.SameEncoding i' ∧
      i.hex = "0xAFBFFFFC".toList := by
  have hrun : ((interpret "\tSW $ra ,-4( $sp )# save".toList).outcome.toOption.map
      (·.hex)) = some "0xAFBFFFFC".toList := by
    decide +kernel
  have hrun' : ((interpret "sw $ra,\n-4( $sp )".toList).outcome.toOption.map (·.hex)) =
      some "0xAFBFFFFC".toList := by
    decide +kernel
  obtain ⟨i, hi, hhex⟩ := exists_ok_of_toOption_map hrun
  obtain ⟨i', hi', -⟩ := exists_ok_of_toOption_map hrun'
  have hbody : Operands.Joined ["$ra".toList, "-4( $sp )".toList] "$ra ,-4( $sp )".toList := by
    have htext : "$ra ,-4( $sp )".toList = "$ra".toList ++ [' '] ++ ',' :: [] ++
        "-4( $sp )".toList := by decide +kernel
    rw [htext]
    exact .cons (by decide) blank_nil (.single _)
  have hline : LaidOut "SW".toList ["$ra".toList, "-4( $sp )".toList]
      "\tSW $ra ,-4( $sp )# save".toList := by
    have htext : "\tSW $ra ,-4( $sp )# save".toList = ['\t'] ++ "SW".toList ++ [' '] ++
        "$ra ,-4( $sp )".toList ++ [] ++ "# save".toList := by decide +kernel
    rw [htext]
    exact .intro _ _ _ _ _ (by decide) (by decide +kernel) (by decide) (by decide) (by decide)
      (by decide) hbody (by decide +kernel) blank_nil (.inr ⟨_, rfl⟩)
  have hbody' : Operands.Joined ["$ra".toList, "-4( $sp )".toList] "$ra,\n-4( $sp )".toList := by
    have htext : "$ra,\n-4( $sp )".toList = "$ra".toList ++ [] ++ ',' :: ['\n'] ++
        "-4( $sp )".toList := by decide +kernel
    rw [htext]
    exact .cons blank_nil (by decide) (.single _)
  have hline' : LaidOut "sw".toList ["$ra".toList, "-4( $sp )".toList]
      "sw $ra,\n-4( $sp )".toList := by
    have htext : "sw $ra,\n-4( $sp )".toList = [] ++ "sw".toList ++ [' '] ++
        "$ra,\n-4( $sp )".toList ++ [] ++ [] := by decide +kernel
    rw [htext]
    exact .intro _ _ _ _ _ blank_nil (by decide +kernel) (by decide) (by decide) (by decide)
      (by decide) hbody' (by decide +kernel) blank_nil (.inl rfl)
  have hsegments : Operands.Segments 0 ["$ra".toList, "-4( $sp )".toList] :=
    .cons (by decide +kernel) (by decide +kernel) (.single (by decide +kernel))
  have hagree := interpret_layout_agrees hline hline' (by decide) hsegments
  rw [hi, hi'] at hagree
  exact ⟨i, i', hi, hi', hagree, hhex⟩

end MipsEncoding
