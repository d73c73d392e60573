import MipsEncoding.Token
import MipsEncoding.Proofs.Denotation
import MipsEncoding.Proofs.Runs

/-! The lexemes of a text. `Lexeme.Spells` says how a text is made of lexemes with spacers around
them, each lexeme as long as what follows it allows; `Lexeme.all` finds exactly these lexemes. From
this follow the texts that a single token, or a literal, is written as. -/
namespace MipsEncoding

/-- A text of spacers only, which may be empty. -/
def Spaced (t : Text) : Prop := ∀ c ∈ t, c ∈ [' ', '\t', '\r', '\n', '\x0c']

/-- A core stands alone in a text: there is nothing but spacers around it. -/
def StandsAlone (core t : Text) : Prop := ∃ w w', Spaced w ∧ Spaced w' ∧ t = w ++ core ++ w'

theorem isSpacer_iff_mem {c : Char} : isSpacer c = true ↔ c ∈ [' ', '\t', '\r', '\n', '\x0c'] := by
  simp [isSpacer, or_assoc]

theorem isBlank_of_isSpacer {c : Char} (h : isSpacer c = true) : Text.isBlank c = true := by
  simp only [isSpacer, Bool.or_eq_true, beq_iff_eq] at h
  rcases h with (((rfl | rfl) | rfl) | rfl) | rfl <;> decide

theorem Spaced.isSpacer {t : Text} (h : Spaced t) {c : Char} (hc : c ∈ t) : isSpacer c = true :=
  isSpacer_iff_mem.mpr (h c hc)

theorem Spaced.blank {t : Text} (h : Spaced t) : Text.Blank t :=
  fun _ hc => isBlank_of_isSpacer (h.isSpacer hc)

theorem isDelimiter_of_isSpacer {c : Char} (h : isSpacer c = true) : isDelimiter c = true := by
  simp [isDelimiter, h]

theorem isWordCharacter_of_isDelimiter {c : Char} (h : isDelimiter c = true) :
    Text.isWordCharacter c = false := by
  simp only [isDelimiter, isSpacer, Bool.or_eq_true, beq_iff_eq] at h
  rcases h with (((rfl | rfl) | rfl) | rfl) | (((rfl | rfl) | rfl) | rfl) | rfl <;> decide

theorem isWordCharacter_of_isSpacer {c : Char} (h : isSpacer c = true) :
    Text.isWordCharacter c = false :=
  isWordCharacter_of_isDelimiter (isDelimiter_of_isSpacer h)

theorem ofPunctuation?_eq_some_iff {c : Char} {token : Token} :
    Token.ofPunctuation? c = some token ↔
      (c = '(' ∧ token = .leftParen) ∨ (c = ')' ∧ token = .rightParen) ∨
        (c = ',' ∧ token = .comma) := by
  unfold Token.ofPunctuation?
  split <;> simp_all [eq_comm]

theorem not_isDelimiter_iff {c : Char} :
    isDelimiter c = false ↔ isSpacer c = false ∧ Token.ofPunctuation? c = none ∧ c ≠ '$' := by
  have hp : Token.ofPunctuation? c = none ↔ c ≠ '(' ∧ c ≠ ')' ∧ c ≠ ',' := by
    unfold Token.ofPunctuation?
    split <;> simp_all
  rw [hp]
  simp only [isDelimiter, Bool.or_eq_false_iff, beq_eq_false_iff_ne, ne_eq]
  tauto

namespace Lexeme

/-- A lexeme as it is cut off in front of `rest`: punctuation stands alone, a run takes all the
characters that can belong to it. -/
inductive IsCut : Lexeme → Text → Prop
  | punctuation {c : Char} {token : Token} {rest : Text}
      (mark : Token.ofPunctuation? c = some token) : IsCut ⟨[c], .ok token⟩ rest
  | register {word rest : Text} (inWord : ∀ c ∈ word, Text.isWordCharacter c = true)
      (longest : ∀ c ∈ rest.head?, Text.isWordCharacter c = false) :
      IsCut ⟨'$' :: word, Token.ofRegisterRun ('$' :: word)⟩ rest
  | plain {run rest : Text} (nonempty : run ≠ []) (inRun : ∀ c ∈ run, isDelimiter c = false)
      (longest : ∀ c ∈ rest.head?, isDelimiter c = true) :
      IsCut ⟨run, Token.ofPlainRun run⟩ rest

/-- A text spells lexemes: they stand in it in order, with spacers before, between and after. -/
inductive Spells : List Lexeme → Text → Prop
  | nil {w : Text} (spaced : Spaced w) : Spells [] w
  | cons {w rest : Text} {l : Lexeme} {ls : List Lexeme} (spaced : Spaced w) (cut : IsCut l rest)
      (more : Spells ls rest) : Spells (l :: ls) (w ++ l.slice ++ rest)

theorem all_append_of_spaced {w : Text} (hw : Spaced w) (t : Text) : all (w ++ t) = all t := by
  induction w with
  | nil => rfl
  | cons c w ih =>
    rw [List.cons_append, all, if_pos (hw.isSpacer (by simp))]
    exact ih fun x hx => hw x (by simp [hx])

theorem all_of_spaced {w : Text} (hw : Spaced w) : all w = [] := by
  rw [← List.append_nil w, all_append_of_spaced hw, all]

theorem IsCut.all_append {l : Lexeme} {rest : Text} (h : IsCut l rest) :
    all (l.slice ++ rest) = l :: all rest := by
  cases h with
  | @punctuation c token _ mark =>
    have hspacer : isSpacer c = false := by
      rcases ofPunctuation?_eq_some_iff.mp mark with ⟨rfl, -⟩ | ⟨rfl, -⟩ | ⟨rfl, -⟩ <;> decide
    rw [List.singleton_append, all]
    simp [hspacer, mark]
  | @register word _ inWord longest =>
    have hspacer : isSpacer '$' = false := by decide
    have hmark : Token.ofPunctuation? '$' = none := by decide
    rw [List.cons_append, all]
    simp [hspacer, hmark, Text.takeWhile_append_stop inWord longest,
      Text.dropWhile_append_stop inWord longest]
  | @plain run _ nonempty inRun longest =>
    obtain ⟨c, run, rfl⟩ := List.exists_cons_of_ne_nil nonempty
    obtain ⟨hspacer, hmark, hdollar⟩ := not_isDelimiter_iff.mp (inRun c (by simp))
    have hin : ∀ x ∈ run, (!isDelimiter x) = true := fun x hx => by simp [inRun x (by simp [hx])]
    have hstop : ∀ x ∈ rest.head?, (!isDelimiter x) = false := fun x hx => by simp [longest x hx]
    rw [List.cons_append, all]
    simp [hspacer, hmark, hdollar, Text.takeWhile_append_stop hin hstop,
      Text.dropWhile_append_stop hin hstop]

theorem all_of_spells {ls : List Lexeme} {t : Text} (h : Spells ls t) : all t = ls := by
  induction h with
  | nil spaced => exact all_of_spaced spaced
  | cons spaced cut _ ih =>
    rw [List.append_assoc, all_append_of_spaced spaced, cut.all_append, ih]

theorem Spells.cons_spacer {ls : List Lexeme} {t : Text} {c : Char} (h : Spells ls t)
    (hc : isSpacer c = true) : Spells ls (c :: t) := by
  have hlisted := isSpacer_iff_mem.mp hc
  cases h with
  | nil spaced => exact .nil (List.forall_mem_cons.mpr ⟨hlisted, spaced⟩)
  | cons spaced cut more => exact .cons (List.forall_mem_cons.mpr ⟨hlisted, spaced⟩) cut more

/-- Lexemes that are cut off from the left spell the text. -/
theorem IsCut.spells {l : Lexeme} {ls : List Lexeme} {rest : Text} (h : IsCut l rest)
    (more : Spells ls rest) : Spells (l :: ls) (l.slice ++ rest) :=
  .cons (w := []) (by simp [Spaced]) h more

theorem spells_all (t : Text) : Spells (all t) t := by
  fun_induction all t with
  | case1 => exact .nil (by simp [Spaced])
  | case2 c t hspacer ih => exact ih.cons_spacer hspacer
  | case3 c t _ token mark ih => exact (IsCut.punctuation mark).spells ih
  | case4 c t _ _ hdollar run ih =>
    obtain rfl : c = '$' := by simpa using hdollar
    have hin : ∀ x ∈ t.takeWhile Text.isWordCharacter, Text.isWordCharacter x = true :=
      fun x hx => List.mem_takeWhile_imp hx
    have h := (IsCut.register hin (Text.head?_dropWhile t)).spells ih
    rwa [List.cons_append, List.takeWhile_append_dropWhile] at h
  | case5 c t hspacer mark hdollar run ih =>
    have hc : isDelimiter c = false :=
      not_isDelimiter_iff.mpr ⟨by simpa using hspacer, mark, by simpa using hdollar⟩
    have hin : ∀ x ∈ run, isDelimiter x = false := by
      intro x hx
      rcases List.mem_cons.mp hx with rfl | hx
      · exact hc
      · simpa using List.mem_takeWhile_imp hx
    have hstop : ∀ x ∈ (t.dropWhile (!isDelimiter ·)).head?, isDelimiter x = true := by
      intro x hx
      simpa using Text.head?_dropWhile t x hx
    have h := (IsCut.plain (List.cons_ne_nil c _) hin hstop).spells ih
    rwa [List.cons_append, List.takeWhile_append_dropWhile] at h

/-- The lexemes of a text are those that it spells. -/
theorem all_eq_iff {t : Text} {ls : List Lexeme} : all t = ls ↔ Spells ls t :=
  ⟨fun h => h ▸ spells_all t, all_of_spells⟩

/-- What is cut off in front of some text is cut off at the end of a text, too. -/
theorem IsCut.at_end {l : Lexeme} {rest : Text} (h : IsCut l rest) : IsCut l [] := by
  cases h with
  | punctuation mark => exact .punctuation mark
  | register inWord _ => exact .register inWord (by simp)
  | plain nonempty inRun _ => exact .plain nonempty inRun (by simp)

/-- A delimiter ends every lexeme, so it can stand behind what follows a lexeme. -/
theorem IsCut.append {l : Lexeme} {rest t : Text} (h : IsCut l rest)
    (ht : ∀ c ∈ t.head?, isDelimiter c = true) : IsCut l (rest ++ t) := by
  have hhead : ∀ {p : Char → Prop}, (∀ c ∈ rest.head?, p c) → (∀ c ∈ t.head?, p c) →
      ∀ c ∈ (rest ++ t).head?, p c := by
    intro p hrest ht'
    cases rest <;> simp_all
  cases h with
  | punctuation mark => exact .punctuation mark
  | register inWord longest =>
    exact .register inWord (hhead longest fun c hc => isWordCharacter_of_isDelimiter (ht c hc))
  | plain nonempty inRun longest => exact .plain nonempty inRun (hhead longest ht)

theorem Spells.exists_of_cons {l : Lexeme} {ls : List Lexeme} {t : Text} (h : Spells (l :: ls) t) :
    ∃ w rest, Spaced w ∧ IsCut l rest ∧ Spells ls rest ∧ t = w ++ l.slice ++ rest := by
  cases h with
  | cons spaced cut more => exact ⟨_, _, spaced, cut, more, rfl⟩

theorem Spells.spaced_of_nil {t : Text} (h : Spells [] t) : Spaced t := by
  cases h with
  | nil spaced => exact spaced

/-- A text that starts with a delimiter adds its lexemes to those of the text in front of it. -/
theorem Spells.append {ls ls' : List Lexeme} {s t : Text} (h : Spells ls s)
    (ht : ∀ c ∈ t.head?, isDelimiter c = true) (h' : Spells ls' t) : Spells (ls ++ ls') (s ++ t) := by
  induction h with
  | nil spaced =>
    rw [List.nil_append, ← all_eq_iff, all_append_of_spaced spaced]
    exact all_of_spells h'
  | cons spaced cut _ ih =>
    rw [List.append_assoc, List.cons_append]
    exact .cons spaced (cut.append ht) ih

theorem all_append {t : Text} (ht : ∀ c ∈ t.head?, isDelimiter c = true) (s : Text) :
    all (s ++ t) = all s ++ all t :=
  all_of_spells ((spells_all s).append ht (spells_all t))

theorem all_append_cons {c : Char} (hc : isSpacer c = true) (s t : Text) :
    all (s ++ c :: t) = all s ++ all t := by
  rw [all_append (by simpa using isDelimiter_of_isSpacer hc), all, if_pos hc]

end Lexeme

/-- A name of a register is found under the number it is listed with. -/
theorem Register.ofName?_eq_some_iff {name : Text} {r : Register} :
    ofName? name = some r ↔ (name, r.number) ∈ names := by
  constructor
  · intro h
    obtain ⟨entry, hfind, rfl⟩ := Option.map_eq_some_iff.mp h
    have hname : entry.1 = name := by simpa using List.find?_some hfind
    subst hname
    exact List.mem_of_find?_eq_some hfind
  · intro h
    have hall : ∀ entry ∈ names, ofName? entry.1 = some ⟨entry.2⟩ := by decide
    exact hall _ h

namespace Token

theorem ofRegisterRun_eq_ok_iff {run : Text} {token : Token} :
    ofRegisterRun run = .ok token ↔
      ∃ r, token = .register r ∧ (run, r.number) ∈ Register.names := by
  unfold ofRegisterRun
  cases h : Register.ofName? run with
  | none =>
    have hne : ∀ r : Register, (run, r.number) ∉ Register.names := by
      intro r hr
      rw [Register.ofName?_eq_some_iff.mpr hr] at h
      cases h
    simp [hne]
  | some r =>
    constructor
    · rintro ⟨⟩
      exact ⟨r, rfl, Register.ofName?_eq_some_iff.mp h⟩
    · rintro ⟨r', rfl, hr'⟩
      rw [Register.ofName?_eq_some_iff.mpr hr'] at h
      cases h
      rfl

theorem ofPlainRun_of_denotes {radix : Radix} {run : Text} {v : Int} (h : Denotes radix run v) :
    ofPlainRun run =
      if fitsSignedWord v then .ok (.number radix v) else .error .numberTooLarge := by
  obtain ⟨n, hn, rfl, rfl⟩ := Numeral.read?_of_denotes h
  simp [ofPlainRun, hn]

theorem ofPlainRun_of_not_denotes {run : Text} (h : ∀ radix v, ¬ Denotes radix run v) :
    ofPlainRun run = .ok (.word run) := by
  cases hn : Numeral.read? run with
  | none => simp [ofPlainRun, hn]
  | some n => exact absurd (Numeral.denotes_of_read? hn) (h _ _)

/-- A plain run is the number that it denotes, or a word if it denotes none. -/
theorem ofPlainRun_eq_ok {run : Text} {token : Token} (h : ofPlainRun run = .ok token) :
    (∃ radix v, token = .number radix v ∧ Denotes radix run v ∧ fitsSignedWord v = true) ∨
      (token = .word run ∧ ∀ radix v, ¬ Denotes radix run v) := by
  by_cases hd : ∃ radix v, Denotes radix run v
  · obtain ⟨radix, v, hd⟩ := hd
    rw [ofPlainRun_of_denotes hd] at h
    split at h
    · next hfits =>
      cases h
      exact .inl ⟨radix, v, rfl, hd, hfits⟩
    · cases h
  · simp only [not_exists] at hd
    rw [ofPlainRun_of_not_denotes hd] at h
    cases h
    exact .inr ⟨rfl, hd⟩

end Token

namespace Lexeme

theorem IsCut.token_cases {l : Lexeme} {token : Token} {rest : Text} (h : IsCut l rest)
    (ht : l.token = .ok token) :
    (∃ c, Token.ofPunctuation? c = some token ∧ l.slice = [c]) ∨
      (∃ r, token = .register r ∧ (l.slice, r.number) ∈ Register.names) ∨
      (∃ radix v, token = .number radix v ∧ Denotes radix l.slice v ∧ fitsSignedWord v = true) ∨
      (token = .word l.slice ∧ ∀ radix v, ¬ Denotes radix l.slice v) := by
  cases h with
  | @punctuation c _ _ mark =>
    cases ht
    exact .inl ⟨c, mark, rfl⟩
  | register _ _ => exact .inr (.inl (Token.ofRegisterRun_eq_ok_iff.mp ht))
  | plain _ _ _ => exact .inr (.inr (Token.ofPlainRun_eq_ok ht))

theorem IsCut.register_mem {l : Lexeme} {rest : Text} {r : Register} (h : IsCut l rest)
    (ht : l.token = .ok (.register r)) : (l.slice, r.number) ∈ Register.names := by
  rcases h.token_cases ht with ⟨c, hc, -⟩ | ⟨r', hr', hmem⟩ | ⟨radix, v, hv, -⟩ | ⟨hw, -⟩
  · simp [ofPunctuation?_eq_some_iff] at hc
  · cases hr'
    exact hmem
  · cases hv
  · cases hw

theorem IsCut.number_denotes {l : Lexeme} {rest : Text} {radix : Radix} {v : Int}
    (h : IsCut l rest) (ht : l.token = .ok (.number radix v)) :
    Denotes radix l.slice v ∧ fitsSignedWord v = true := by
  rcases h.token_cases ht with ⟨c, hc, -⟩ | ⟨r, hr, -⟩ | ⟨radix', v', hv, hd, hfits⟩ | ⟨hw, -⟩
  · simp [ofPunctuation?_eq_some_iff] at hc
  · cases hr
  · cases hv
    exact ⟨hd, hfits⟩
  · cases hw

theorem IsCut.word_slice {l : Lexeme} {rest s : Text} (h : IsCut l rest)
    (ht : l.token = .ok (.word s)) : l.slice = s := by
  rcases h.token_cases ht with ⟨c, hc, -⟩ | ⟨r, hr, -⟩ | ⟨radix, v, hv, -⟩ | ⟨hw, -⟩
  · simp [ofPunctuation?_eq_some_iff] at hc
  · cases hr
  · cases hv
  · cases hw
    rfl

theorem IsCut.paren_slice {l : Lexeme} {rest : Text} (h : IsCut l rest) :
    (l.token = .ok .leftParen → l.slice = ['(']) ∧ (l.token = .ok .rightParen → l.slice = [')']) := by
  constructor <;> intro ht
  · rcases h.token_cases ht with ⟨c, hc, hslice⟩ | ⟨r, hr, -⟩ | ⟨radix, v, hv, -⟩ | ⟨hw, -⟩
    · simpa [hslice, ofPunctuation?_eq_some_iff] using hc
    · cases hr
    · cases hv
    · cases hw
  · rcases h.token_cases ht with ⟨c, hc, hslice⟩ | ⟨r, hr, -⟩ | ⟨radix, v, hv, -⟩ | ⟨hw, -⟩
    · simpa [hslice, ofPunctuation?_eq_some_iff] using hc
    · cases hr
    · cases hv
    · cases hw

theorem isCut_register {name rest : Text} {r : Register} (h : (name, r.number) ∈ Register.names)
    (longest : ∀ c ∈ rest.head?, Text.isWordCharacter c = false) :
    IsCut ⟨name, .ok (.register r)⟩ rest := by
  have hnames : ∀ entry ∈ Register.names,
      entry.1.head? = some '$' ∧ entry.1.tail.all Text.isWordCharacter = true := by decide
  obtain ⟨hhead, hall⟩ := hnames _ h
  have hword := List.all_eq_true.mp hall
  have hname : name = '$' :: name.tail := (List.cons_head?_tail hhead).symm
  have hcut := IsCut.register hword longest
  rwa [← hname, Token.ofRegisterRun_eq_ok_iff.mpr ⟨r, rfl, h⟩] at hcut

theorem isCut_number {radix : Radix} {t rest : Text} {v : Int} (h : Denotes radix t v)
    (hfits : fitsSignedWord v = true) (longest : ∀ c ∈ rest.head?, isDelimiter c = true) :
    IsCut ⟨t, .ok (.number radix v)⟩ rest := by
  have hcut := IsCut.plain h.ne_nil (fun c hc => h.not_isDelimiter hc) longest
  rwa [Token.ofPlainRun_of_denotes h, if_pos hfits] at hcut

end Lexeme

namespace Token

theorem ofText_eq_ok_iff {t : Text} {tokens : List Token} :
    ofText t = .ok tokens ↔
      ∃ ls, Lexeme.Spells ls t ∧ ls.map (·.token) = tokens.map .ok := by
  rw [ofText, mapM_eq_ok_iff]
  constructor
  · intro h
    exact ⟨Lexeme.all t, Lexeme.spells_all t, h⟩
  · rintro ⟨ls, hls, h⟩
    rwa [Lexeme.all_of_spells hls]

theorem ofText_of_plain {t : Text} (hne : t ≠ []) (h : ∀ c ∈ t, isDelimiter c = false) :
    ofText t = (ofPlainRun t).map fun token => [token] := by
  have hspells : Lexeme.Spells [⟨t, ofPlainRun t⟩] (t ++ []) :=
    (Lexeme.IsCut.plain hne h (by simp)).spells (.nil (by simp [Spaced]))
  rw [List.append_nil] at hspells
  rw [ofText, Lexeme.all_of_spells hspells]
  cases ofPlainRun t <;> rfl

/-- A text that holds one token is the lexeme of that token, standing alone. -/
theorem ofText_eq_ok_singleton_iff_exists {t : Text} {token : Token} :
    ofText t = .ok [token] ↔ ∃ core, StandsAlone core t ∧ Lexeme.IsCut ⟨core, .ok token⟩ [] := by
  rw [ofText_eq_ok_iff]
  constructor
  · intro h
    obtain ⟨ls, hls, hmap⟩ := h
    obtain ⟨⟨core, token'⟩, rfl, htoken⟩ : ∃ l, ls = [l] ∧ l.token = .ok token := by
      simpa [List.map_eq_singleton_iff] using hmap
    obtain rfl : token' = .ok token := htoken
    obtain ⟨w, rest, hw, hcut, hmore, rfl⟩ := hls.exists_of_cons
    exact ⟨core, ⟨w, rest, hw, hmore.spaced_of_nil, rfl⟩, hcut.at_end⟩
  · intro h
    obtain ⟨core, ⟨w, w', hw, hw', rfl⟩, hcut⟩ := h
    have hcut' := hcut.append fun c hc => isDelimiter_of_isSpacer (hw'.isSpacer (List.mem_of_mem_head? hc))
    exact ⟨_, .cons hw hcut' (.nil hw'), rfl⟩

/-- A trimmed text that holds one token is the lexeme of that token. -/
theorem ofText_eq_ok_singleton_iff {t : Text} (ht : Text.Trimmed t) {token : Token} :
    ofText t = .ok [token] ↔ Lexeme.IsCut ⟨t, .ok token⟩ [] := by
  rw [ofText_eq_ok_singleton_iff_exists]
  constructor
  · intro h
    obtain ⟨core, ⟨w, w', hw, hw', rfl⟩, hcut⟩ := h
    obtain ⟨rfl, rfl⟩ := ht.eq_nil_of_append hw.blank hw'.blank
    simpa using hcut
  · intro h
    exact ⟨t, ⟨[], [], by simp [Spaced], by simp [Spaced], by simp⟩, h⟩

end Token

namespace Literal

theorem read_eq_number_iff {t : Text} {radix : Radix} {v : Int} :
    read t = .ok (.number radix v) ↔ Token.ofText t = .ok [.number radix v] := by
  unfold read
  split <;> simp_all

theorem read_eq_symbol_iff {t s : Text} :
    read t = .ok (.symbol s) ↔ Token.ofText t = .ok [.word s] := by
  unfold read
  split <;> simp_all

/-- A numeral is read as its number, or it is too large. -/
theorem read_of_denotes {radix : Radix} {t : Text} {v : Int} (h : Denotes radix t v) :
    read t = if fitsSignedWord v then .ok (.number radix v) else .error .numberTooLarge := by
  have htoken := Token.ofText_of_plain h.ne_nil fun c hc => h.not_isDelimiter hc
  rw [Token.ofPlainRun_of_denotes h] at htoken
  split at htoken <;> simp_all [read, Except.map]

end Literal

end MipsEncoding

/-! Lexemes of texts put together. A lexeme never reaches over a spacer, a mark or a `$`, so the lexemes
of two texts with such a separator between them are those of the two texts one after the other. Every
lexeme is the only one of its own slice; written down with spaces between them, lexemes are found
again as they are. -/
namespace MipsEncoding.Lexeme

theorem all_append_spaced {w : Text} (hw : Spaced w) (hne : w ≠ []) (s t : Text) :
    all (s ++ w ++ t) = all s ++ all t := by
  have hdelimiter : ∀ c ∈ (w ++ t).head?, isDelimiter c = true := by
    rw [List.head?_append_of_ne_nil _ hne]
    intro c hc
    exact isDelimiter_of_isSpacer (hw.isSpacer (List.mem_of_mem_head? hc))
  rw [List.append_assoc, all_append hdelimiter, all_append_of_spaced hw]

theorem all_append_mark {c : Char} {token : Token} (h : Token.ofPunctuation? c = some token)
    (s t : Text) : all (s ++ c :: t) = all s ++ ⟨[c], .ok token⟩ :: all t := by
  have hdelimiter : isDelimiter c = true := by
    rw [← Bool.not_eq_false, not_isDelimiter_iff, h]
    simp
  have hmark : all (c :: t) = ⟨[c], .ok token⟩ :: all t := (IsCut.punctuation h).all_append
  rw [all_append (by simpa using hdelimiter), hmark]

theorem all_append_dollar (s t : Text) : all (s ++ '$' :: t) = all s ++ all ('$' :: t) := by
  have hdelimiter : isDelimiter '$' = true := by decide
  exact all_append (by simpa using hdelimiter) s

theorem IsCut.all_slice {l : Lexeme} {rest : Text} (h : IsCut l rest) : all l.slice = [l] := by
  have hend := h.at_end.all_append
  rwa [List.append_nil, all] at hend

/-- A lexeme of a text is the only lexeme of its slice. -/
theorem all_slice {t : Text} {l : Lexeme} (hl : l ∈ all t) : all l.slice = [l] := by
  have h := spells_all t
  generalize all t = ls at h hl
  induction h with
  | nil => cases hl
  | cons spaced cut more ih =>
    cases hl with
    | head => exact cut.all_slice
    | tail _ hl => exact ih hl

/-- Texts with spaces between them have the lexemes of all of them, in order. -/
theorem all_intercalate_space (ts : List Text) : all ([' '].intercalate ts) = ts.flatMap all := by
  have hspace : isSpacer ' ' = true := by decide
  induction ts with
  | nil => rw [List.intercalate_nil, all, List.flatMap_nil]
  | cons t ts ih =>
    by_cases hts : ts = []
    · rw [hts, List.intercalate_singleton, List.flatMap_singleton]
    · rw [List.intercalate_cons_of_ne_nil hts, List.append_assoc, List.singleton_append,
        all_append_cons hspace, ih, List.flatMap_cons]

theorem flatMap_all_slices (t : Text) : ((all t).map (·.slice)).flatMap all = all t := by
  rw [List.flatMap_map, List.flatMap_congr fun l hl => all_slice hl, List.flatMap_singleton']

/-- Cutting a text into lexemes respects every separator: spacers belong to no lexeme, a mark is a
lexeme of its own, and a `$` starts one. So the slices of the lexemes, with spaces between them, have
the same lexemes again. -/
theorem all_respects_separators (s t : Text) :
    (∀ w : Text, w ≠ [] → (∀ c ∈ w, c ∈ [' ', '\t', '\r', '\n', '\x0c']) →
        all (s ++ w ++ t) = all s ++ all t) ∧
      (∀ c token, (c, token) ∈ [('(', Token.leftParen), (')', .rightParen), (',', .comma)] →
        all (s ++ c :: t) = all s ++ ⟨[c], .ok token⟩ :: all t) ∧
      all (s ++ '$' :: t) = all s ++ all ('$' :: t) ∧
      all ([' '].intercalate ((all s).map (·.slice))) = all s := by
  refine ⟨?_, ?_, all_append_dollar s t, ?_⟩
  · intro w hne hw
    exact all_append_spaced hw hne s t
  · intro c token hmark
    exact all_append_mark (ofPunctuation?_eq_some_iff.mpr (by simpa using hmark)) s t
  · rw [all_intercalate_space, flatMap_all_slices]

/-- Two numbers do not run together over a line break, and a number ends at a parenthesis or `$`. -/
theorem all_respects_separators_digits :
    all "0x1F\r\n80".toList = all "0x1F".toList ++ all "80".toList ∧
      all "12($t".toList = all "12".toList ++ ⟨['('], .ok .leftParen⟩ :: all "$t".toList ∧
      all "12$t".toList = all "12".toList ++ all "$t".toList := by
  refine ⟨?_, ?_, ?_⟩
  · exact (all_respects_separators "0x1F".toList "80".toList).1 "\r\n".toList (by decide) (by simp)
  · exact (all_respects_separators "12".toList "$t".toList).2.1 '(' .leftParen (by decide)
  · exact (all_respects_separators "12".toList "t".toList).2.2.1

end MipsEncoding.Lexeme
