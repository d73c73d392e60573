import MipsEncoding.Proofs.Kinds
import MipsEncoding.Proofs.NormalForm

/-! The words that name an instruction. A line may write a mnemonic in capitals, and its word is put
into lower case by the rules for all letters. Some letters beyond ASCII have ASCII in their lowercase
forms: the Kelvin sign becomes a `k` and the dotted capital I an `i` with a dot. No mnemonic has a
letter `k`, and the dot is no ASCII character, so only ASCII words name an instruction. -/
namespace MipsEncoding.Text

/-- A character beyond ASCII, or the one ASCII letter that such a character can become alone. -/
def IsForeign (c : Char) : Prop := 128 ≤ c.toNat ∨ c = 'k'

instance (c : Char) : Decidable (IsForeign c) := inferInstanceAs (Decidable (_ ∨ _))

/-- The images of a run lie beyond ASCII, or it leads from a single character to a `k`. -/
def CaseRun.isForeign (r : CaseRun) : Bool :=
  Nat.ble 128 (r.image r.first) || (r.first == r.last && r.image r.first == 'k'.toNat)

theorem CaseRun.isForeign_image {r : CaseRun} {n : Nat} (hr : r ∈ lowercaseRuns)
    (hn : r.covers n = true) : IsForeign (Char.ofNat (r.image n)) := by
  have hruns : lowercaseRuns.all isForeign = true := by decide +kernel
  have h := List.all_eq_true.mp hruns r hr
  simp only [isForeign, Bool.or_eq_true, Bool.and_eq_true, Nat.ble_eq, beq_iff_eq] at h
  rcases h with hbeyond | ⟨hsingle, hkelvin⟩
  · have himage := (image_eq hr hn).1
    left
    rw [(toNat_image hr hn).1]
    omega
  · have hbounds := covers_iff.mp hn
    have hfirst : n = r.first := by omega
    right
    rw [hfirst, hkelvin, Char.ofNat_toNat]

/-- What a character beyond ASCII becomes holds a foreign character. -/
theorem exists_isForeign_of_lowercaseAlone {c : Char} (hc : 128 ≤ c.toNat) :
    ∃ d ∈ lowercaseAlone c, IsForeign d := by
  rw [lowercaseAlone, if_neg (Nat.not_lt.mpr hc)]
  split
  · exact ⟨'\u0307', by simp, by decide⟩
  · split
    · next r hfind =>
      have hcovers : r.covers c.toNat = true := by simpa using List.find?_some hfind
      exact ⟨_, List.mem_singleton_self _,
        CaseRun.isForeign_image (List.mem_of_find?_eq_some hfind) hcovers⟩
    · exact ⟨c, List.mem_singleton_self c, .inl hc⟩

theorem exists_isForeign_of_lowercaseAfter (reversedBefore : Text) {t : Text} {c : Char}
    (hmem : c ∈ t) (hc : 128 ≤ c.toNat) : ∃ d ∈ lowercaseAfter reversedBefore t, IsForeign d := by
  induction t generalizing reversedBefore with
  | nil => cases hmem
  | cons x t ih =>
    rw [lowercaseAfter]
    cases hmem with
    | head =>
      split
      · refine ⟨_, List.mem_append_left _ (List.mem_singleton_self _), ?_⟩
        split <;> decide
      · obtain ⟨d, hd, hforeign⟩ := exists_isForeign_of_lowercaseAlone hc
        exact ⟨d, List.mem_append_left _ hd, hforeign⟩
    | tail _ hmem =>
      obtain ⟨d, hd, hforeign⟩ := ih (x :: reversedBefore) hmem
      exact ⟨d, List.mem_append_right _ hd, hforeign⟩

theorem lowercaseAfter_of_ascii {t : Text} (h : ∀ c ∈ t, c.toNat < 128) (reversedBefore : Text) :
    lowercaseAfter reversedBefore t = t.map Char.toLower := by
  induction t generalizing reversedBefore with
  | nil => rfl
  | cons c t ih =>
    obtain ⟨hc, ht⟩ := List.forall_mem_cons.mp h
    have hsigma : c ≠ '\u03A3' := by
      intro hsigma
      rw [hsigma] at hc
      exact absurd hc (by decide)
    simp [lowercaseAfter, lowercaseAlone, hsigma, hc, ih ht]

/-- Without foreign characters in its lowercase form, a text is an ASCII text. -/
theorem lowercase_eq_iff {t s : Text} (hs : ∀ c ∈ s, ¬ IsForeign c) :
    lowercase t = s ↔ (∀ c ∈ t, c.toNat < 128) ∧ t.map Char.toLower = s := by
  constructor
  · intro h
    have hascii : ∀ c ∈ t, c.toNat < 128 := by
      intro c hc
      by_contra hbeyond
      obtain ⟨d, hd, hforeign⟩ :=
        exists_isForeign_of_lowercaseAfter [] hc (Nat.not_lt.mp hbeyond)
      rw [← lowercase, h] at hd
      exact hs d hd hforeign
    refine ⟨hascii, ?_⟩
    rw [← h, lowercase, lowercaseAfter_of_ascii hascii]
  · intro h
    rw [lowercase, lowercaseAfter_of_ascii h.1, h.2]

end MipsEncoding.Text

namespace MipsEncoding.Catalog
open Text

/-- A mnemonic is written in lower case and without a `k`. -/
theorem mnemonic_spelling {d : Definition} (hd : d ∈ definitions) :
    d.mnemonic.map Char.toLower = d.mnemonic ∧ ∀ c ∈ d.mnemonic, ¬ IsForeign c := by
  have h : ∀ d ∈ definitions,
      d.mnemonic.map Char.toLower = d.mnemonic ∧ d.mnemonic.all (¬ IsForeign ·) = true := by
    decide +kernel
  obtain ⟨hlower, hnative⟩ := h d hd
  exact ⟨hlower, by simpa using hnative⟩

theorem find_lowercase_eq_ok_iff {word : Text} {d : Definition} :
    find (lowercase word) = .ok d ↔ d ∈ definitions ∧ (∀ c ∈ word, c.toNat < 128) ∧
      word.map Char.toLower = d.mnemonic.map Char.toLower := by
  rw [find_eq_ok_iff]
  refine and_congr_right fun hd => ?_
  obtain ⟨hlower, hnative⟩ := mnemonic_spelling hd
  rw [eq_comm, lowercase_eq_iff hnative, hlower]

/-- The word of a line names an instruction exactly if it is an ASCII word that differs from the
mnemonic at most in the case of its letters. A word with any other character in it is unknown, also
where the lowercase form of that character has ASCII letters. -/
theorem find_word_iff_ascii (word : Text) (hne : word ≠ []) (solid : ∀ c ∈ word, isBlank c = false)
    (unmarked : '#' ∉ word) :
    ∃ i, Instruction.ofLine word = .ok i ∧ i.mnemonic = lowercase word ∧
      (∀ d, find i.mnemonic = .ok d ↔ d ∈ definitions ∧ (∀ c ∈ word, c.toNat < 128) ∧
        word.map Char.toLower = d.mnemonic.map Char.toLower) ∧
      ∀ c ∈ word, 128 ≤ c.toNat → find i.mnemonic = .error (.unknownMnemonic (lowercase word)) := by
  have hwritten := Instruction.Written.bare blank_nil solid hne blank_nil
  rw [List.nil_append, List.append_nil, ← Instruction.before_eq_self unmarked] at hwritten
  refine ⟨_, Instruction.ofLine_of_written hwritten, ?_⟩
  rw [Instruction.before_eq_self unmarked]
  refine ⟨rfl, fun d => find_lowercase_eq_ok_iff, ?_⟩
  intro c hc hbeyond
  cases hfind : find (lowercase word) with
  | ok d =>
    have hascii := (find_lowercase_eq_ok_iff.mp hfind).2.1 c hc
    exact absurd hascii (Nat.not_lt.mpr hbeyond)
  | error cause => rw [eq_unknownMnemonic_of_find hfind]

/-- Capitals do not matter, but a dotted capital I is not an I. -/
theorem find_word_iff_ascii_dotted :
    (∃ i d, Instruction.ofLine "SlTI".toList = .ok i ∧ find i.mnemonic = .ok d ∧
        d.mnemonic = "slti".toList) ∧
      ∃ i, Instruction.ofLine "SLT\u0130".toList = .ok i ∧
        find i.mnemonic = .error (.unknownMnemonic "slti\u0307".toList) := by
  constructor
  · obtain ⟨d, hd, hmnemonic⟩ : ∃ d ∈ definitions, d.mnemonic = "slti".toList := by decide +kernel
    have hsolid : Solid "SlTI".toList := by decide
    obtain ⟨i, hi, -, hfind, -⟩ :=
      find_word_iff_ascii "SlTI".toList (by decide) hsolid (by decide)
    refine ⟨i, d, hi, (hfind d).mpr ⟨hd, by simp, ?_⟩, hmnemonic⟩
    rw [hmnemonic]
    decide
  · have hsolid : Solid "SLT\u0130".toList := by decide
    obtain ⟨i, hi, -, -, hunknown⟩ :=
      find_word_iff_ascii "SLT\u0130".toList (by decide) hsolid (by decide)
    have hlower : lowercase "SLT\u0130".toList = "slti\u0307".toList := by decide +kernel
    rw [hlower] at hunknown
    exact ⟨i, hi, hunknown '\u0130' (by decide) (by decide)⟩

end MipsEncoding.Catalog
