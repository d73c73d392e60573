import MipsEncoding.Assembly
import MipsEncoding.Proofs.Literals

/-! Targets that are any text at all. A target is resolved to an integer of 32 bits exactly if it
stands for that integer: it is a numeral of it with nothing but spacers around. Trimming takes off
more than spacers, but it only comes into play where a lexeme is too large, and a text that is such a
numeral after trimming has no such lexeme. -/
namespace MipsEncoding

/-- A text stands for an integer: it holds a numeral of it and otherwise nothing but spacers. -/
def StandsFor (t : Text) (value : Int) : Prop :=
  ∃ radix core, StandsAlone core t ∧ Denotes radix core value

/-- A text is free of spacers or has a last one. -/
theorem free_or_exists_last_spacer (t : Text) :
    (∀ c ∈ t, isSpacer c = false) ∨
      ∃ s c rest, t = s ++ c :: rest ∧ isSpacer c = true ∧ ∀ x ∈ rest, isSpacer x = false := by
  induction t with
  | nil => exact .inl (by simp)
  | cons c t ih =>
    rcases ih with hfree | ⟨s, x, rest, rfl, hx, hrest⟩
    · cases hc : isSpacer c with
      | true => exact .inr ⟨[], c, t, rfl, hc, hfree⟩
      | false => exact .inl (List.forall_mem_cons.mpr ⟨hc, hfree⟩)
    · exact .inr ⟨c :: s, x, rest, rfl, hx, hrest⟩

theorem not_isDelimiter_of_isBlank {c : Char} (h : Text.isBlank c = true)
    (hspacer : isSpacer c = false) : isDelimiter c = false := by
  rw [← Bool.not_eq_true]
  intro hdelimiter
  simp only [isDelimiter, hspacer, Bool.or_false, Bool.or_eq_true, beq_iff_eq] at hdelimiter
  rcases hdelimiter with ((rfl | rfl) | rfl) | rfl <;> revert h <;> decide

theorem Token.ofPlainRun_of_isBlank {run : Text} {c : Char} (hc : c ∈ run)
    (h : Text.isBlank c = true) : ofPlainRun run = .ok (.word run) := by
  refine ofPlainRun_of_not_denotes fun radix v hv => ?_
  rw [hv.solid c hc] at h
  cases h

namespace Lexeme

theorem IsCut.exists_token_of_blank {l : Lexeme} {rest : Text} (h : IsCut l rest)
    (hl : Text.Blank l.slice) : ∃ token, l.token = .ok token := by
  cases h with
  | punctuation mark => exact ⟨_, rfl⟩
  | register =>
    have hmark : Text.isBlank '$' = true := hl '$' (by simp)
    exact absurd hmark (by decide)
  | @plain run _ nonempty =>
    obtain ⟨c, run, rfl⟩ := List.exists_cons_of_ne_nil nonempty
    exact ⟨_, Token.ofPlainRun_of_isBlank List.mem_cons_self (hl c (by simp))⟩

/-- Blanks are never a bad lexeme: those that are no spacers make up words. -/
theorem exists_token_of_blank {w : Text} (hw : Text.Blank w) :
    ∀ l ∈ all w, ∃ token, l.token = .ok token := by
  have h := spells_all w
  generalize all w = ls at h ⊢
  induction h with
  | nil => simp
  | cons _ cut _ ih =>
    simp only [Text.blank_append] at hw
    exact List.forall_mem_cons.mpr ⟨cut.exists_token_of_blank hw.1.2, ih hw.2⟩

section Numerals

variable {radix : Radix} {core w w' : Text} {v : Int}

/-- A numeral without a spacer in front of it is one run with the blanks that touch it. -/
theorem exists_token_of_denotes (h : Denotes radix core v) (hfits : fitsSignedWord v = true)
    (hw : Text.Blank w) (hfree : ∀ c ∈ w, isSpacer c = false) (hw' : Text.Blank w') :
    ∀ l ∈ all (w ++ core ++ w'), ∃ token, l.token = .ok token := by
  obtain ⟨more, rest, hsplit, hmore, hrest⟩ : ∃ more rest, w' = more ++ rest ∧
      (∀ c ∈ more, isSpacer c = false) ∧ ∀ c ∈ rest.head?, isSpacer c = true :=
    ⟨w'.takeWhile (!isSpacer ·), w'.dropWhile (!isSpacer ·), (List.takeWhile_append_dropWhile).symm,
      fun c hc => by simpa using List.mem_takeWhile_imp hc,
      fun c hc => by simpa using Text.head?_dropWhile w' c hc⟩
  subst hsplit
  obtain ⟨hmoreBlank, hrestBlank⟩ := Text.blank_append.mp hw'
  have hrun : ∀ c ∈ w ++ core ++ more, isDelimiter c = false := by
    intro c hc
    simp only [List.mem_append] at hc
    rcases hc with (hc | hc) | hc
    · exact not_isDelimiter_of_isBlank (hw c hc) (hfree c hc)
    · exact h.not_isDelimiter hc
    · exact not_isDelimiter_of_isBlank (hmoreBlank c hc) (hmore c hc)
  have hcut := IsCut.plain (by simp [h.ne_nil]) hrun fun c hc => isDelimiter_of_isSpacer (hrest c hc)
  rw [← List.append_assoc, all_of_spells (hcut.spells (spells_all rest)), List.forall_mem_cons]
  refine ⟨?_, exists_token_of_blank hrestBlank⟩
  -- the run is the numeral itself, or a word because of a blank in it
  change ∃ token, Token.ofPlainRun (w ++ core ++ more) = .ok token
  by_cases hblank : ∃ c ∈ w ++ core ++ more, Text.isBlank c = true
  · obtain ⟨c, hc, hb⟩ := hblank
    exact ⟨_, Token.ofPlainRun_of_isBlank hc hb⟩
  · simp only [not_exists, not_and] at hblank
    have hnil : ∀ u : Text, Text.Blank u → (∀ c ∈ u, c ∈ w ++ core ++ more) → u = [] := by
      intro u hu hmem
      exact List.eq_nil_iff_forall_not_mem.mpr fun c hc => hblank c (hmem c hc) (hu c hc)
    obtain rfl := hnil w hw (by simp +contextual)
    obtain rfl := hnil more hmoreBlank (by simp +contextual)
    rw [List.nil_append, List.append_nil, Token.ofPlainRun_of_denotes h, if_pos hfits]
    exact ⟨_, rfl⟩

theorem exists_token_of_trim_denotes {t : Text} (h : Denotes radix (Text.trim t) v)
    (hfits : fitsSignedWord v = true) : ∀ l ∈ all t, ∃ token, l.token = .ok token := by
  obtain ⟨w, w', hw, hw', ht⟩ := Text.exists_eq_append_trim t
  rw [ht]
  rcases free_or_exists_last_spacer w with hfree | ⟨s, c, rest, rfl, hc, hfree⟩
  · exact exists_token_of_denotes h hfits hw hfree hw'
  · obtain ⟨hs, hrest⟩ := Text.blank_append.mp hw
    have htext : s ++ c :: rest ++ Text.trim t ++ w' = s ++ c :: (rest ++ Text.trim t ++ w') := by
      simp
    rw [htext, all_append_cons hc, List.forall_mem_append]
    exact ⟨exists_token_of_blank hs,
      exists_token_of_denotes h hfits (Text.blank_cons.mp hrest).2 hfree hw'⟩

end Numerals

end Lexeme

namespace Token

/-- Once a text denotes an integer that fits after trimming, none of its lexemes is bad. -/
theorem ofText_ne_error {radix : Radix} {t : Text} {v : Int} (h : Denotes radix (Text.trim t) v)
    (hfits : fitsSignedWord v = true) (e : TokenError) : ofText t ≠ .error e := by
  intro herror
  obtain ⟨l, hl, hcause⟩ := mapM_eq_error_iff.mp herror
  obtain ⟨token, htoken⟩ := Lexeme.exists_token_of_trim_denotes h hfits l hl.mem
  rw [hcause] at htoken
  cases htoken

end Token

theorem Literal.read_eq_number_iff_standsFor {t : Text} {v : Int}
    (hfits : fitsSignedWord v = true) :
    (∃ radix, read t = .ok (.number radix v)) ↔ StandsFor t v := by
  refine exists_congr fun radix => ?_
  rw [read_eq_number_iff, Token.ofText_eq_number_iff]
  simp only [hfits, and_true]

namespace Assembly

/-- Whatever a target is, it is resolved to an integer of 32 bits exactly if it stands for it. -/
theorem resolveTarget_eq_ok_iff {t : Text} {v : Int} (hfits : fitsSignedWord v = true) :
    resolveTarget t = .ok v ↔ StandsFor t v := by
  rw [← Literal.read_eq_number_iff_standsFor hfits]
  constructor
  · intro h
    unfold resolveTarget at h
    split at h
    · next radix value hread =>
      cases h
      exact ⟨radix, hread⟩
    · cases h
    · next hlarge =>
      exfalso
      split at h
      · next n hn =>
        have hvalue : n.value = v := by
          have hsaturated := Except.ok.inj h
          rw [Numeral.saturated_eq_clamp] at hsaturated
          have hrange := fitsSignedWord_iff.mp hfits
          omega
        have hdenotes := Numeral.denotes_of_read? hn
        rw [hvalue] at hdenotes
        obtain ⟨-, hcause | ⟨⟨⟩, -⟩⟩ := Literal.read_eq_error_iff.mp hlarge
        exact Token.ofText_ne_error hdenotes hfits _ hcause
      · cases h
    · cases h
  · intro h
    obtain ⟨radix, hread⟩ := h
    simp [resolveTarget, hread]

end Assembly

end MipsEncoding
