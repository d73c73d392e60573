import MipsEncoding.Proofs.LongestMatch

/-! Literals by their form. A text is read as a number exactly if it is a numeral in the range of 32
bits that stands alone, and as a symbol exactly if a run without delimiters that is no numeral does.
Any other text is refused for its first lexeme that is none of the tokens, or as an unknown symbol if
all its lexemes are tokens. -/
namespace MipsEncoding

/-- The cause for which the first bad lexeme of a text is refused. -/
def FirstRefused (cause : TokenError) (t : Text) : Prop :=
  ∃ ls l, Lexeme.Munched ls t ∧ Leftmost (fun l => ∃ e : TokenError, e.Refuses l.slice) ls l ∧
    cause.Refuses l.slice

/-- A literal written in a text, with nothing but spacers around it. -/
inductive Literal.Written : Literal → Text → Prop
  | number {radix : Radix} {core t : Text} {value : Int} (alone : StandsAlone core t)
      (denotes : Denotes radix core value) (low : -2 ^ 31 ≤ value) (high : value ≤ 2 ^ 31 - 1) :
      Written (.number radix value) t
  | symbol {core t : Text} (alone : StandsAlone core t) (plain : Pattern.word.Matches core)
      (noNumeral : ∀ radix, ¬ (Pattern.number radix).Matches core) : Written (.symbol core) t

namespace Lexeme

/-- A lexeme is refused exactly if its slice is no token. -/
theorem IsLongest.token_eq_error_iff {l : Lexeme} {rest : Text} (h : l.IsLongest rest)
    {e : TokenError} : l.token = .error e ↔ e.Refuses l.slice := by
  refine ⟨h.refuses, ?_⟩
  intro he
  have hcut := h.isCut
  cases hcut with
  | @punctuation c _ _ mark =>
    exfalso
    have hc := ofPunctuation?_eq_some_iff.mp mark
    cases he with
    | numberTooLarge denotes _ =>
      have hplain := denotes.not_isDelimiter (c := c) (by simp)
      rcases hc with ⟨rfl, -⟩ | ⟨rfl, -⟩ | ⟨rfl, -⟩ <;> revert hplain <;> decide
    | unknownRegister => simp [Token.ofPunctuation?] at mark
  | @register word _ inWord _ =>
    cases he with
    | numberTooLarge denotes _ =>
      exact absurd (denotes.not_isDelimiter (c := '$') (by simp)) (by decide)
    | unknownRegister _ unnamed =>
      exact (Pattern.yields_ofRegisterRun _).unique (.unknown unnamed)
  | @plain run _ _ inRun _ =>
    cases he with
    | numberTooLarge denotes large =>
      rw [← fitsSignedWord_iff] at large
      change Token.ofPlainRun run = _
      rw [Token.ofPlainRun_of_denotes denotes, if_neg large]
    | unknownRegister => exact absurd (inRun '$' (by simp)) (by decide)

end Lexeme

namespace Token

theorem ofText_eq_error_iff {t : Text} {e : TokenError} : ofText t = .error e ↔ FirstRefused e t := by
  have hmunched : Lexeme.Munched (Lexeme.all t) t :=
    Lexeme.spells_iff_munched.mp (Lexeme.spells_all t)
  have hrefused : ∀ l ∈ Lexeme.all t, ∀ e : TokenError, l.token = .error e ↔ e.Refuses l.slice := by
    intro l hl e
    obtain ⟨rest, hlongest⟩ := hmunched.isLongest l hl
    exact hlongest.token_eq_error_iff
  have hexists : ∀ l ∈ Lexeme.all t,
      (∃ e, l.token = .error e) ↔ ∃ e : TokenError, e.Refuses l.slice :=
    fun l hl => exists_congr (hrefused l hl)
  rw [ofText, mapM_eq_error_iff]
  constructor
  · intro h
    obtain ⟨l, hl, hcause⟩ := h
    exact ⟨_, l, hmunched, hl.congr hexists, (hrefused l hl.mem e).mp hcause⟩
  · intro h
    obtain ⟨ls, l, hls, hl, hcause⟩ := h
    obtain rfl := Lexeme.all_of_spells (Lexeme.spells_iff_munched.mpr hls)
    exact ⟨l, hl.congr fun l hl => (hexists l hl).symm, (hrefused l hl.mem e).mpr hcause⟩

theorem ofText_eq_number_iff {t : Text} {radix : Radix} {v : Int} :
    ofText t = .ok [.number radix v] ↔
      ∃ core, StandsAlone core t ∧ Denotes radix core v ∧ fitsSignedWord v = true := by
  rw [ofText_eq_ok_singleton_iff_exists]
  refine exists_congr fun core => and_congr_right fun _ => ?_
  constructor
  · intro h
    exact h.number_denotes rfl
  · intro h
    exact Lexeme.isCut_number h.1 h.2 (by simp)

theorem ofText_eq_word_iff {t s : Text} :
    ofText t = .ok [.word s] ↔ StandsAlone s t ∧ Pattern.word.Matches s ∧
      ∀ radix, ¬ (Pattern.number radix).Matches s := by
  rw [ofText_eq_ok_singleton_iff_exists]
  constructor
  · intro h
    obtain ⟨core, halone, hcut⟩ := h
    obtain ⟨p, hmatches, hunbeaten, hyields⟩ := hcut.chosen
    change p.Yields core (.ok (.word s)) at hyields
    cases hyields with
    | word =>
      exact ⟨halone, hmatches, fun radix hnumber => hunbeaten _ hnumber (.number radix)⟩
    | mark listed => simp at listed
  · intro h
    obtain ⟨halone, hplain, hnone⟩ := h
    have hsymbol : ∀ radix v, ¬ Denotes radix s v :=
      fun radix v hv => hnone radix (Pattern.matches_number_iff.mpr ⟨v, hv⟩)
    have hcut : Lexeme.IsCut ⟨s, ofPlainRun s⟩ [] := by
      cases hplain with
      | word nonempty inRun =>
        have hrun : ∀ c ∈ s, isDelimiter c = false :=
          fun c hc => Pattern.not_isDelimiter_iff_not_mem.mpr (inRun c hc)
        exact .plain nonempty hrun (by simp)
    rw [ofPlainRun_of_not_denotes hsymbol] at hcut
    exact ⟨s, halone, hcut⟩

end Token

namespace Literal

theorem read_eq_ok_iff {t : Text} {literal : Literal} :
    read t = .ok literal ↔ literal.Written t := by
  cases literal with
  | number radix value =>
    rw [read_eq_number_iff, Token.ofText_eq_number_iff]
    constructor
    · intro h
      obtain ⟨core, alone, denotes, fits⟩ := h
      obtain ⟨low, high⟩ := fitsSignedWord_iff.mp fits
      exact .number alone denotes low (by omega)
    · intro h
      obtain ⟨alone, denotes, low, high⟩ := h
      exact ⟨_, alone, denotes, fitsSignedWord_iff.mpr ⟨low, by omega⟩⟩
  | symbol text =>
    rw [read_eq_symbol_iff, Token.ofText_eq_word_iff]
    constructor
    · intro h
      exact .symbol h.1 h.2.1 h.2.2
    · intro h
      cases h with
      | symbol alone plain noNumeral => exact ⟨alone, plain, noNumeral⟩

theorem read_eq_error_iff {t : Text} {e : TokenError} :
    read t = .error e ↔ (∀ literal, read t ≠ .ok literal) ∧
      (Token.ofText t = .error e ∨ e = .unknownSymbol ∧ ∀ e', Token.ofText t ≠ .error e') := by
  unfold read
  split
  · next h => simp [h]
  · next h => simp [h]
  · next hnumber hword h => simp [h, eq_comm]
  · next h => simp [h]

/-- What a text is read as depends on its form alone. It is a number of the radix in which it is
written, or a symbol; if it is neither, its first bad lexeme decides the cause. -/
theorem read_by_form (t : Text) :
    (∀ literal : Literal, read t = .ok literal ↔ literal.Written t) ∧
      ∀ e, read t = .error e ↔ (∀ literal : Literal, ¬ literal.Written t) ∧
        (FirstRefused e t ∨ e = .unknownSymbol ∧ ∀ e', ¬ FirstRefused e' t) := by
  refine ⟨fun literal => read_eq_ok_iff, ?_⟩
  intro e
  simp only [read_eq_error_iff, ne_eq, read_eq_ok_iff, Token.ofText_eq_error_iff]

/-- Small and capital letters are the same digits; with a letter that is no digit, a text is a symbol. -/
theorem read_by_form_letters :
    read "\t-0xfA ".toList = .ok (.number .hexadecimal (-250)) ∧
      read "0xfg".toList = .ok (.symbol "0xfg".toList) := by
  constructor
  · have hsigned : (['-'], (-1 : Int)) ∈ Numeral.signs := by decide
    have hmarked : "0x".toList ∈ Radix.hexadecimal.marks := by decide
    have hlisted : ∀ d ∈ [('f', 15), ('A', 10)], d ∈ Radix.hexadecimal.digits := by decide
    have hdenotes : Denotes .hexadecimal "-0xfA".toList (-250) :=
      Denotes.intro hsigned hmarked (by simp) hlisted
    have halone : StandsAlone "-0xfA".toList "\t-0xfA ".toList :=
      ⟨['\t'], [' '], by simp [Spaced], by simp [Spaced], rfl⟩
    exact ((read_by_form _).1 _).mpr (.number halone hdenotes (by decide) (by decide))
  · have halone : StandsAlone "0xfg".toList "0xfg".toList :=
      ⟨[], [], by simp [Spaced], by simp [Spaced], rfl⟩
    have hplain : Pattern.word.Matches "0xfg".toList := .word (by decide) (by simp)
    refine ((read_by_form _).1 _).mpr (.symbol halone hplain ?_)
    intro radix hnumber
    obtain ⟨v, hv⟩ := Pattern.matches_number_iff.mp hnumber
    obtain ⟨n, hn, -⟩ := Numeral.read?_of_denotes hv
    have hnone : Numeral.read? "0xfg".toList = none := by decide
    rw [hnone] at hn
    cases hn

end Literal

end MipsEncoding
