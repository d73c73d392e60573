import MipsEncoding.Proofs.Lexing

/-! Lexemes by longest match. `Pattern.Matches` says which texts the patterns of lexemes match, each
pattern by itself. At every point of a text the longest match of any pattern is cut off, and a
number wins against a word of the same length. The lexemes of a text are exactly those cut off in
this way, with spacers around them and nothing left over. -/
namespace MipsEncoding

/-- The patterns of lexemes. -/
inductive Pattern
  | number (radix : Radix)
  | register
  | word
  | mark (c : Char)
  deriving DecidableEq, Repr

namespace Pattern

/-- The texts that a pattern matches. -/
inductive Matches : Pattern → Text → Prop
  | number {radix : Radix} {sign mark digits : Text} (signed : sign ∈ [[], ['+'], ['-']])
      (marked : mark ∈ radix.marks) (nonempty : digits ≠ [])
      (areDigits : ∀ c ∈ digits, ∃ v, (c, v) ∈ radix.digits) :
      Matches (.number radix) (sign ++ mark ++ digits)
  | register {word : Text} (inWord : ∀ c ∈ word, Text.isWordCharacter c = true) :
      Matches .register ('$' :: word)
  | word {run : Text} (nonempty : run ≠ [])
      (inRun : ∀ c ∈ run, c ∉ [',', '(', ')', '$', ' ', '\t', '\r', '\n', '\x0c']) :
      Matches .word run
  | mark {c : Char} (listed : c ∈ ['(', ')', ',']) : Matches (.mark c) [c]

/-- Which pattern wins if two patterns match the same text. -/
inductive Beats : Pattern → Pattern → Prop
  | number (radix : Radix) : Beats (.number radix) .word

/-- What a match of a pattern becomes: a token, or the reason why it is none. -/
inductive Yields : Pattern → Text → Except TokenError Token → Prop
  | number {radix : Radix} {t : Text} {v : Int} (denotes : Denotes radix t v)
      (fits : fitsSignedWord v = true) : Yields (.number radix) t (.ok (.number radix v))
  | tooLarge {radix : Radix} {t : Text} {v : Int} (denotes : Denotes radix t v)
      (large : fitsSignedWord v = false) : Yields (.number radix) t (.error .numberTooLarge)
  | register {t : Text} {r : Register} (named : (t, r.number) ∈ Register.names) :
      Yields .register t (.ok (.register r))
  | unknown {t : Text} (unnamed : ∀ n, (t, n) ∉ Register.names) :
      Yields .register t (.error .unknownRegister)
  | word (t : Text) : Yields .word t (.ok (.word t))
  | mark {c : Char} {token : Token}
      (listed : (c, token) ∈ [('(', .leftParen), (')', .rightParen), (',', .comma)]) :
      Yields (.mark c) [c] (.ok token)

theorem matches_number_iff {radix : Radix} {t : Text} :
    Matches (.number radix) t ↔ ∃ v, Denotes radix t v := by
  constructor
  · intro h
    cases h with
    | @number _ sign mark digits signed marked nonempty areDigits =>
      obtain ⟨factor, hfactor⟩ : ∃ factor, (sign, factor) ∈ Numeral.signs := by
        simp only [List.mem_cons, List.not_mem_nil, or_false] at signed
        rcases signed with rfl | rfl | rfl
        · exact ⟨1, by decide⟩
        · exact ⟨1, by decide⟩
        · exact ⟨-1, by decide⟩
      have hread : ∀ c ∈ digits, radix.isDigit c = true := by
        intro c hc
        obtain ⟨v, hv⟩ := areDigits c hc
        exact (Radix.mem_digits_iff.mp hv).1
      exact ⟨_, .of_digits hfactor marked nonempty hread⟩
  · intro h
    obtain ⟨_, @⟨sign, mark, factor, digits, signed, marked, nonempty, listed⟩⟩ := h
    have hsigns : ∀ entry ∈ Numeral.signs, entry.1 ∈ [[], ['+'], ['-']] := by decide
    refine .number (hsigns _ signed) marked (by simpa using nonempty) ?_
    intro c hc
    obtain ⟨d, hd, rfl⟩ := List.mem_map.mp hc
    exact ⟨d.2, listed d hd⟩

theorem not_isDelimiter_iff_not_mem {c : Char} :
    isDelimiter c = false ↔ c ∉ [',', '(', ')', '$', ' ', '\t', '\r', '\n', '\x0c'] := by
  rw [← Bool.not_eq_true, not_iff_not]
  simp [isDelimiter, isSpacer, or_assoc]

/-- A match is a run without delimiters, a register mark with a word, or a single mark. -/
theorem Matches.shape {p : Pattern} {t : Text} (h : p.Matches t) :
    (t ≠ [] ∧ ∀ c ∈ t, isDelimiter c = false) ∨
      (∃ word, t = '$' :: word ∧ ∀ c ∈ word, Text.isWordCharacter c = true) ∨
      ∃ c ∈ ['(', ')', ','], t = [c] := by
  cases p with
  | number radix =>
    obtain ⟨v, hv⟩ := matches_number_iff.mp h
    exact .inl ⟨hv.ne_nil, fun c hc => hv.not_isDelimiter hc⟩
  | register =>
    cases h with
    | register inWord => exact .inr (.inl ⟨_, rfl, inWord⟩)
  | word =>
    cases h with
    | word nonempty inRun =>
      exact .inl ⟨nonempty, fun c hc => not_isDelimiter_iff_not_mem.mpr (inRun c hc)⟩
  | mark c =>
    cases h with
    | mark listed => exact .inr (.inr ⟨c, listed, rfl⟩)

theorem Matches.ne_nil {p : Pattern} {t : Text} (h : p.Matches t) : t ≠ [] := by
  rcases h.shape with ⟨hne, -⟩ | ⟨word, rfl, -⟩ | ⟨c, -, rfl⟩
  · exact hne
  · exact List.cons_ne_nil _ _
  · exact List.cons_ne_nil _ _

theorem matches_word_of_plain {run : Text} (hne : run ≠ [])
    (h : ∀ c ∈ run, isDelimiter c = false) : Matches .word run :=
  .word hne fun c hc => not_isDelimiter_iff_not_mem.mp (h c hc)

theorem yields_ofRegisterRun (run : Text) : Yields .register run (Token.ofRegisterRun run) := by
  unfold Token.ofRegisterRun
  cases h : Register.ofName? run with
  | some r => exact .register (Register.ofName?_eq_some_iff.mp h)
  | none =>
    refine .unknown fun n hn => ?_
    rw [Register.ofName?_eq_some_iff (r := ⟨n⟩) |>.mpr hn] at h
    cases h

theorem yields_number {radix : Radix} {run : Text} {v : Int} (h : Denotes radix run v) :
    Yields (.number radix) run (Token.ofPlainRun run) := by
  rw [Token.ofPlainRun_of_denotes h]
  cases hfits : fitsSignedWord v with
  | true => exact .number h hfits
  | false => exact .tooLarge h hfits

/-- A match of a pattern becomes one thing only. -/
theorem Yields.unique {p : Pattern} {t : Text} {x y : Except TokenError Token}
    (hx : p.Yields t x) (hy : p.Yields t y) : x = y := by
  cases hx with
  | number denotes fits =>
    cases hy with
    | number denotes' fits' => rw [(denotes.unique denotes').2]
    | tooLarge denotes' large => simp [(denotes.unique denotes').2, large] at fits
  | tooLarge denotes large =>
    cases hy with
    | number denotes' fits => simp [(denotes.unique denotes').2, fits] at large
    | tooLarge => rfl
  | register named =>
    cases hy with
    | register named' =>
      rw [← Register.ofName?_eq_some_iff] at named named'
      rw [Option.some.inj (named.symm.trans named')]
    | unknown unnamed => exact absurd named (unnamed _)
  | unknown unnamed =>
    cases hy with
    | register named => exact absurd named (unnamed _)
    | unknown => rfl
  | word => cases hy with | word => rfl
  | mark listed =>
    cases hy with
    | mark listed' =>
      simp only [List.mem_cons, Prod.mk.injEq, List.not_mem_nil, or_false] at listed listed'
      rcases listed with ⟨rfl, rfl⟩ | ⟨rfl, rfl⟩ | ⟨rfl, rfl⟩ <;> simp_all

end Pattern

/-- A text of some characters cannot reach past a character that is none of them. -/
theorem Text.length_le_of_prefix {p : Char → Bool} {t run rest : Text} (ht : t <+: run ++ rest)
    (hin : ∀ c ∈ t, p c = true) (hstop : ∀ c ∈ rest.head?, p c = false) :
    t.length ≤ run.length := by
  by_contra hlong
  have hrun := List.prefix_of_prefix_length_le (List.prefix_append run rest) ht (by omega)
  obtain ⟨more, rfl⟩ := hrun
  have hmore : more <+: rest := (List.prefix_append_right_inj run).mp ht
  obtain ⟨c, tail, rfl⟩ := List.exists_cons_of_ne_nil (l := more) (by rintro rfl; simp at hlong)
  obtain ⟨after, rfl⟩ := hmore
  have hc := hstop c (by simp)
  rw [hin c (by simp)] at hc
  cases hc

theorem Text.head_of_prefix {c : Char} {t rest : Text} (ht : t <+: c :: rest) (hne : t ≠ []) :
    c ∈ t := by
  obtain ⟨x, tail, rfl⟩ := List.exists_cons_of_ne_nil hne
  rw [(List.cons_prefix_cons.mp ht).1]
  exact List.mem_cons_self

/-- Why a text is no token: a number does not fit, or a word behind a register mark is no name. An
unknown symbol is no such reason. -/
inductive TokenError.Refuses : TokenError → Text → Prop
  | numberTooLarge {radix : Radix} {t : Text} {v : Int} (denotes : Denotes radix t v)
      (large : ¬ (-2 ^ 31 ≤ v ∧ v < 2 ^ 31)) : Refuses .numberTooLarge t
  | unknownRegister {word : Text} (inWord : ∀ c ∈ word, Text.isWordCharacter c = true)
      (unnamed : ∀ n, ('$' :: word, n) ∉ Register.names) : Refuses .unknownRegister ('$' :: word)

namespace Lexeme

/-- A lexeme in front of `rest`: its slice is the longest match there, and its token is what the
winning pattern makes of it. -/
structure IsLongest (l : Lexeme) (rest : Text) : Prop where
  longest : ∀ (p : Pattern) t, p.Matches t → t <+: l.slice ++ rest → t.length ≤ l.slice.length
  chosen : ∃ p : Pattern, p.Matches l.slice ∧ (∀ q : Pattern, q.Matches l.slice → ¬ q.Beats p) ∧
    p.Yields l.slice l.token

/-- Lexemes cut off a text one after the other, each by longest match, with spacers around them. -/
inductive Munched : List Lexeme → Text → Prop
  | nil {w : Text} (spaced : Spaced w) : Munched [] w
  | cons {w rest : Text} {l : Lexeme} {ls : List Lexeme} (spaced : Spaced w)
      (longest : l.IsLongest rest) (more : Munched ls rest) :
      Munched (l :: ls) (w ++ l.slice ++ rest)

theorem IsCut.longest {l : Lexeme} {rest : Text} (h : IsCut l rest) {p : Pattern} {t : Text}
    (hm : p.Matches t) (ht : t <+: l.slice ++ rest) : t.length ≤ l.slice.length := by
  -- the first character decides which shape the match can have
  cases h with
  | @punctuation c _ _ mark =>
    have hc : isDelimiter c = true := by
      rcases ofPunctuation?_eq_some_iff.mp mark with ⟨rfl, -⟩ | ⟨rfl, -⟩ | ⟨rfl, -⟩ <;> decide
    have hhead : c ∈ t := Text.head_of_prefix ht hm.ne_nil
    rcases hm.shape with ⟨-, hplain⟩ | ⟨word, rfl, -⟩ | ⟨x, -, rfl⟩
    · simp [hplain c hhead] at hc
    · obtain rfl : '$' = c := (List.cons_prefix_cons.mp ht).1
      simp [Token.ofPunctuation?] at mark
    · simp
  | @register word _ inWord stop =>
    have hhead : '$' ∈ t := Text.head_of_prefix ht hm.ne_nil
    rcases hm.shape with ⟨-, hplain⟩ | ⟨word', rfl, inWord'⟩ | ⟨x, -, rfl⟩
    · exact absurd (hplain '$' hhead) (by decide)
    · have hprefix : word' <+: word ++ rest := (List.cons_prefix_cons.mp ht).2
      have hlen := Text.length_le_of_prefix hprefix inWord' stop
      simpa using hlen
    · simp
  | @plain run _ nonempty inRun stop =>
    obtain ⟨c, tail, rfl⟩ := List.exists_cons_of_ne_nil nonempty
    have hc := inRun c (by simp)
    have hhead : c ∈ t := Text.head_of_prefix ht hm.ne_nil
    rcases hm.shape with ⟨-, hplain⟩ | ⟨word, rfl, -⟩ | ⟨x, -, rfl⟩
    · apply Text.length_le_of_prefix (p := (!isDelimiter ·)) ht
      · intro x hx
        simp [hplain x hx]
      · intro x hx
        simp [stop x hx]
    · obtain rfl : '$' = c := (List.cons_prefix_cons.mp ht).1
      exact absurd hc (by decide)
    · simp

theorem IsCut.chosen {l : Lexeme} {rest : Text} (h : IsCut l rest) :
    ∃ p : Pattern, p.Matches l.slice ∧ (∀ q : Pattern, q.Matches l.slice → ¬ q.Beats p) ∧
      p.Yields l.slice l.token := by
  cases h with
  | @punctuation c token _ mark =>
    have hlisted : (c, token) ∈ [('(', Token.leftParen), (')', .rightParen), (',', .comma)] := by
      simpa using ofPunctuation?_eq_some_iff.mp mark
    refine ⟨.mark c, .mark ?_, ?_, .mark hlisted⟩
    · rcases ofPunctuation?_eq_some_iff.mp mark with ⟨rfl, -⟩ | ⟨rfl, -⟩ | ⟨rfl, -⟩ <;> decide
    · rintro q - ⟨⟩
  | @register word _ inWord _ =>
    refine ⟨.register, .register inWord, ?_, Pattern.yields_ofRegisterRun _⟩
    rintro q - ⟨⟩
  | @plain run _ nonempty inRun _ =>
    by_cases hd : ∃ radix v, Denotes radix run v
    · obtain ⟨radix, v, hd⟩ := hd
      refine ⟨.number radix, Pattern.matches_number_iff.mpr ⟨v, hd⟩, ?_, Pattern.yields_number hd⟩
      rintro q - ⟨⟩
    · simp only [not_exists] at hd
      refine ⟨.word, Pattern.matches_word_of_plain nonempty inRun, ?_, ?_⟩
      · rintro q hq ⟨radix⟩
        obtain ⟨v, hv⟩ := Pattern.matches_number_iff.mp hq
        exact hd radix v hv
      · rw [Token.ofPlainRun_of_not_denotes hd]
        exact .word run

/-- A longest match stops where one more character would still match. -/
theorem IsLongest.stops {l : Lexeme} {rest : Text} (h : l.IsLongest rest) {p : Char → Bool}
    (hextends : ∀ c, p c = true → ∃ q : Pattern, q.Matches (l.slice ++ [c])) :
    ∀ c ∈ rest.head?, p c = false := by
  intro c hc
  rw [← Bool.not_eq_true]
  intro hp
  obtain ⟨q, hq⟩ := hextends c hp
  obtain ⟨tail, rfl⟩ : ∃ tail, rest = c :: tail := List.head?_eq_some_iff.mp hc
  have hlen := h.longest q _ hq ⟨tail, by simp⟩
  simp at hlen

theorem IsLongest.isCut_of_plain {l : Lexeme} {rest : Text} (h : l.IsLongest rest)
    (hne : l.slice ≠ []) (hplain : ∀ c ∈ l.slice, isDelimiter c = false)
    (htoken : l.token = Token.ofPlainRun l.slice) : IsCut l rest := by
  have hstop := h.stops (p := (!isDelimiter ·)) fun c hc =>
    ⟨.word, Pattern.matches_word_of_plain (by simp) fun x hx => by
      rcases List.mem_append.mp hx with hx | hx
      · exact hplain x hx
      · simpa [List.mem_singleton.mp hx] using hc⟩
  obtain ⟨slice, token⟩ := l
  obtain rfl : token = Token.ofPlainRun slice := htoken
  exact .plain hne hplain fun c hc => by simpa using hstop c hc

theorem IsLongest.isCut {l : Lexeme} {rest : Text} (h : l.IsLongest rest) : IsCut l rest := by
  obtain ⟨p, hm, hunbeaten, hyields⟩ := h.chosen
  obtain ⟨slice, token⟩ := l
  cases p with
  | number radix =>
    obtain ⟨v, hv⟩ := Pattern.matches_number_iff.mp hm
    exact h.isCut_of_plain hv.ne_nil (fun c hc => hv.not_isDelimiter hc)
      (hyields.unique (Pattern.yields_number hv))
  | register =>
    cases hm with
    | @register word inWord =>
      obtain rfl : token = Token.ofRegisterRun ('$' :: word) :=
        hyields.unique (Pattern.yields_ofRegisterRun _)
      refine .register inWord (h.stops fun c hc => ⟨.register, ?_⟩)
      have hword : ∀ x ∈ word ++ [c], Text.isWordCharacter x = true := by
        intro x hx
        rcases List.mem_append.mp hx with hx | hx
        · exact inWord x hx
        · rwa [List.mem_singleton.mp hx]
      exact .register hword
  | word =>
    have hsymbol : ∀ radix v, ¬ Denotes radix slice v := fun radix v hv =>
      hunbeaten _ (Pattern.matches_number_iff.mpr ⟨v, hv⟩) (.number radix)
    have htoken := hyields.unique (.word slice)
    rw [← Token.ofPlainRun_of_not_denotes hsymbol] at htoken
    cases hm with
    | word nonempty inRun =>
      exact h.isCut_of_plain nonempty
        (fun c hc => Pattern.not_isDelimiter_iff_not_mem.mpr (inRun c hc)) htoken
  | mark c =>
    cases hyields with
    | mark listed =>
      exact .punctuation (ofPunctuation?_eq_some_iff.mpr (by simpa using listed))

theorem isCut_iff_isLongest {l : Lexeme} {rest : Text} : IsCut l rest ↔ l.IsLongest rest :=
  ⟨fun h => ⟨fun _ _ => h.longest, h.chosen⟩, IsLongest.isCut⟩

theorem spells_iff_munched {ls : List Lexeme} {t : Text} : Spells ls t ↔ Munched ls t := by
  constructor
  · intro h
    induction h with
    | nil spaced => exact .nil spaced
    | cons spaced cut _ ih => exact .cons spaced (isCut_iff_isLongest.mp cut) ih
  · intro h
    induction h with
    | nil spaced => exact .nil spaced
    | cons spaced longest _ ih => exact .cons spaced (isCut_iff_isLongest.mpr longest) ih

theorem Munched.isLongest {ls : List Lexeme} {t : Text} (h : Munched ls t) :
    ∀ l ∈ ls, ∃ rest, l.IsLongest rest := by
  induction h with
  | nil => simp
  | cons spaced longest _ ih => exact List.forall_mem_cons.mpr ⟨⟨_, longest⟩, ih⟩

theorem IsLongest.slice_ne_nil {l : Lexeme} {rest : Text} (h : l.IsLongest rest) :
    l.slice ≠ [] := by
  obtain ⟨p, hm, -⟩ := h.chosen
  exact hm.ne_nil

theorem IsLongest.refuses {l : Lexeme} {rest : Text} (h : l.IsLongest rest) {e : TokenError}
    (he : l.token = .error e) : e.Refuses l.slice := by
  obtain ⟨p, hm, -, hyields⟩ := h.chosen
  obtain ⟨slice, token⟩ := l
  obtain rfl : token = .error e := he
  cases hyields with
  | tooLarge denotes large =>
    refine .numberTooLarge denotes ?_
    rw [← fitsSignedWord_iff, large]
    exact Bool.false_ne_true
  | unknown unnamed =>
    cases hm with
    | register inWord => exact .unknownRegister inWord unnamed

/-- The lexemes of a text are found by longest match: nothing of the text is lost, every slice is the
longest match at its place, and only numbers out of range and words that name no register are
refused. -/
theorem all_longest_match (t : Text) :
    (∀ ls, all t = ls ↔ Munched ls t) ∧
      ∀ l ∈ all t, l.slice ≠ [] ∧ l.token ≠ .error .unknownSymbol ∧
        ∀ e, l.token = .error e → e.Refuses l.slice := by
  constructor
  · intro ls
    rw [all_eq_iff, spells_iff_munched]
  · intro l hl
    obtain ⟨rest, hlongest⟩ := (spells_iff_munched.mp (spells_all t)).isLongest l hl
    refine ⟨hlongest.slice_ne_nil, ?_, fun e he => hlongest.refuses he⟩
    intro hsymbol
    cases hlongest.refuses hsymbol

/-- A number that is too large does not stop the cutting: the word after it is refused on its own. -/
theorem all_longest_match_glued :
    (all "0x1G 4294967296$t10(".toList).map (·.slice) =
        ["0x1G".toList, "4294967296".toList, "$t10".toList, "(".toList] ∧
      Munched (all "0x1G 4294967296$t10(".toList) "0x1G 4294967296$t10(".toList ∧
      ∃ l ∈ all "0x1G 4294967296$t10(".toList, l.slice = "4294967296".toList ∧
        ∃ e, l.token = .error e ∧ e.Refuses "4294967296".toList := by
  obtain ⟨hmunched, hlexemes⟩ := all_longest_match "0x1G 4294967296$t10(".toList
  refine ⟨by decide +kernel, (hmunched _).mp rfl, ?_⟩
  obtain ⟨l, hl, hslice, hnone⟩ : ∃ l ∈ all "0x1G 4294967296$t10(".toList,
      l.slice = "4294967296".toList ∧ l.token.toOption = none := by
    decide +kernel
  refine ⟨l, hl, hslice, ?_⟩
  cases htoken : l.token with
  | ok token => simp [htoken, Except.toOption] at hnone
  | error e =>
    rw [← hslice]
    exact ⟨e, rfl, (hlexemes l hl).2.2 e htoken⟩

end Lexeme

end MipsEncoding
