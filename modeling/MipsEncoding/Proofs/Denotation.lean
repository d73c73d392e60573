import Mathlib.Data.Nat.Digits.Defs
import MipsEncoding.Token
import MipsEncoding.Proofs.Trimming

/-! The integers that texts denote. `Denotes` says in positional arithmetic which integer a sign, a
mark of the radix and digits stand for, each digit with the value that a table gives it;
`Numeral.read?` accepts exactly the texts that denote an integer, and finds that integer. -/
namespace MipsEncoding

namespace Radix

def marks : Radix → List Text
  | decimal => [[]]
  | hexadecimal => ["0x".toList, "0X".toList]

/-- How many times a place counts as much as the one to its right. -/
def weight : Radix → Nat
  | decimal => 10
  | hexadecimal => 16

/-- The digits with their values. Letters count in both cases. -/
def digits : Radix → List (Char × Nat)
  | decimal => "0123456789".toList.zipIdx
  | hexadecimal => "0123456789abcdef".toList.zipIdx ++ "ABCDEF".toList.zipIdx 10

end Radix

/-- The signs with the factors they stand for; a sign may be left out. -/
def Numeral.signs : List (Text × Int) := [([], 1), (['+'], 1), (['-'], -1)]

/-- A text denotes an integer: a sign, the mark of the radix and at least one digit, with the place
values of the radix. There is no limit on the number of digits. -/
inductive Denotes (radix : Radix) : Text → Int → Prop
  | intro {sign mark : Text} {factor : Int} {digits : List (Char × Nat)}
      (signed : (sign, factor) ∈ Numeral.signs) (marked : mark ∈ radix.marks)
      (nonempty : digits ≠ []) (listed : ∀ d ∈ digits, d ∈ radix.digits) :
      Denotes radix (sign ++ mark ++ digits.map (·.1))
        (factor * Nat.ofDigits radix.weight (digits.map (·.2)).reverse)

namespace Radix

/-- Digits stand in the part of ASCII that has no blanks. -/
theorem toNat_of_isDigit {radix : Radix} {c : Char} (h : radix.isDigit c = true) :
    0x30 ≤ c.toNat ∧ c.toNat ≤ 0x66 := by
  cases radix with
  | decimal =>
    simp only [isDigit, Char.isDigit, ge_iff_le, Bool.and_eq_true, decide_eq_true_eq,
      UInt32.le_iff_toNat_le] at h
    have h1 : 0x30 ≤ c.toNat := h.1
    have h2 : c.toNat ≤ 0x39 := h.2
    omega
  | hexadecimal =>
    simp only [isDigit, Char.isDigit, ge_iff_le, Bool.or_eq_true, Bool.and_eq_true,
      decide_eq_true_eq, UInt32.le_iff_toNat_le, Char.le_def] at h
    have h' : ((0x30 ≤ c.toNat ∧ c.toNat ≤ 0x39) ∨ (0x61 ≤ c.toNat ∧ c.toNat ≤ 0x66)) ∨
        (0x41 ≤ c.toNat ∧ c.toNat ≤ 0x46) := h
    omega

/-- The table lists the digits that are read, with the values that they are read with. -/
theorem mem_digits_iff {radix : Radix} {c : Char} {v : Nat} :
    (c, v) ∈ radix.digits ↔ radix.isDigit c = true ∧ v = digitValue c := by
  constructor
  · intro h
    have hlisted : radix.digits.all (fun d => radix.isDigit d.1 && d.2 == digitValue d.1) = true := by
      cases radix <;> decide
    simpa using List.all_eq_true.mp hlisted (c, v) h
  · rintro ⟨hc, rfl⟩
    -- all digits stand in the part of ASCII below `g`, so there are finitely many to look at
    have hascii : ∀ n ≤ 0x66, radix.isDigit (Char.ofNat n) = true →
        (Char.ofNat n, digitValue (Char.ofNat n)) ∈ radix.digits := by
      cases radix <;> decide
    have hlisted := hascii c.toNat (toNat_of_isDigit hc).2
    rw [Char.ofNat_toNat] at hlisted
    exact hlisted hc

theorem valueOf_eq_ofDigits (radix : Radix) (digits : Text) :
    radix.valueOf digits = Nat.ofDigits radix.weight (digits.map digitValue).reverse := by
  have hbase : radix.base = radix.weight := by cases radix <;> rfl
  induction digits using List.reverseRecOn with
  | nil => rfl
  | append_singleton digits c ih =>
    rw [List.map_append, List.reverse_append, List.map_singleton, List.reverse_singleton,
      List.singleton_append, Nat.ofDigits_cons, ← ih, valueOf, List.foldl_append, ← valueOf, ← hbase]
    simp [Nat.add_comm, Nat.mul_comm]

theorem areDigits_iff (radix : Radix) (t : Text) :
    radix.areDigits t = true ↔ t ≠ [] ∧ ∀ c ∈ t, radix.isDigit c = true := by
  simp [areDigits]

theorem isDigit_ne {radix : Radix} {c : Char} (h : radix.isDigit c = true) :
    c ≠ '+' ∧ c ≠ '-' ∧ c ≠ 'x' ∧ c ≠ 'X' := by
  refine ⟨?_, ?_, ?_, ?_⟩ <;> rintro rfl <;> cases radix <;> revert h <;> decide

end Radix

namespace Denotes

/-- Characters that are read as digits denote what they are read as. -/
theorem of_digits {radix : Radix} {sign mark digits : Text} {factor : Int}
    (signed : (sign, factor) ∈ Numeral.signs) (marked : mark ∈ radix.marks) (nonempty : digits ≠ [])
    (areDigits : ∀ c ∈ digits, radix.isDigit c = true) :
    Denotes radix (sign ++ mark ++ digits) (factor * radix.valueOf digits) := by
  have hlisted : ∀ d ∈ digits.map fun c => (c, digitValue c), d ∈ radix.digits := by
    intro d hd
    obtain ⟨c, hc, rfl⟩ := List.mem_map.mp hd
    exact Radix.mem_digits_iff.mpr ⟨areDigits c hc, rfl⟩
  have h := Denotes.intro signed marked (by simpa using nonempty) hlisted
  rwa [List.map_map, List.map_map, Function.comp_def, Function.comp_def, List.map_id',
    ← Radix.valueOf_eq_ofDigits] at h

theorem exists_digits {radix : Radix} {t : Text} {v : Int} (h : Denotes radix t v) :
    ∃ sign mark digits factor, (sign, factor) ∈ Numeral.signs ∧ mark ∈ radix.marks ∧ digits ≠ [] ∧
      (∀ c ∈ digits, radix.isDigit c = true) ∧ t = sign ++ mark ++ digits ∧
      v = factor * radix.valueOf digits := by
  obtain ⟨signed, marked, nonempty, listed⟩ := h
  rename_i sign mark factor digits
  refine ⟨sign, mark, digits.map (·.1), factor, signed, marked, by simpa using nonempty, ?_, rfl, ?_⟩
  · intro c hc
    obtain ⟨d, hd, rfl⟩ := List.mem_map.mp hc
    exact (Radix.mem_digits_iff.mp (listed d hd)).1
  · have hvalues : digits.map (·.2) = (digits.map (·.1)).map digitValue := by
      rw [List.map_map]
      exact List.map_congr_left fun d hd => (Radix.mem_digits_iff.mp (listed d hd)).2
    rw [hvalues, Radix.valueOf_eq_ofDigits]

end Denotes

/-- The visible ASCII characters are not blank. -/
theorem Text.isBlank_eq_false {c : Char} (h : 0x20 < c.toNat) (h' : c.toNat < 0x7F) :
    Text.isBlank c = false := by
  rw [Bool.eq_false_iff]
  intro hb
  rw [Text.isBlank, Text.Range.anyContains_iff] at hb
  simp only [Text.blankRanges, List.mem_cons, List.not_mem_nil, or_false, exists_eq_or_imp,
    exists_eq_left] at hb
  omega

theorem fitsSignedWord_iff {v : Int} : fitsSignedWord v = true ↔ -2 ^ 31 ≤ v ∧ v < 2 ^ 31 := by
  simp [fitsSignedWord]

namespace Numeral

theorem natAbs_value (n : Numeral) : n.value.natAbs = n.magnitude := by
  unfold value
  split <;> simp

theorem saturated_eq_clamp (n : Numeral) :
    n.saturated = max (-(2 ^ 63 - 1)) (min (2 ^ 63 - 1) n.value) := by
  simp only [saturated, value, largestMagnitude]
  split <;> omega

theorem splitSign_append {sign : Text} {factor : Int} (hs : (sign, factor) ∈ signs) {t : Text}
    (ht : ∀ c ∈ t.head?, c ≠ '+' ∧ c ≠ '-') : splitSign (sign ++ t) = (factor == -1, t) := by
  simp only [signs, List.mem_cons, Prod.mk.injEq, List.not_mem_nil, or_false] at hs
  rcases hs with ⟨rfl, rfl⟩ | ⟨rfl, rfl⟩ | ⟨rfl, rfl⟩
  · -- without a sign, the first character decides that nothing is taken off
    cases t with
    | nil => rfl
    | cons c t =>
      obtain ⟨hplus, hminus⟩ := ht c (by simp)
      rw [List.nil_append, splitSign]
      · rfl
      · rintro _ ⟨⟩
        exact hminus rfl
      · rintro _ ⟨⟩
        exact hplus rfl
  · rfl
  · rfl

theorem splitRadix_append {radix : Radix} {mark digits : Text} (hm : mark ∈ radix.marks)
    (hd : ∀ c ∈ digits, radix.isDigit c = true) : splitRadix (mark ++ digits) = (radix, digits) := by
  cases radix with
  | decimal =>
    simp only [Radix.marks, List.mem_singleton] at hm
    subst hm
    rw [List.nil_append, splitRadix]
    · rintro t rfl
      exact (Radix.isDigit_ne (hd 'x' (by simp))).2.2.1 rfl
    · rintro t rfl
      exact (Radix.isDigit_ne (hd 'X' (by simp))).2.2.2 rfl
  | hexadecimal =>
    simp only [Radix.marks, List.mem_cons, List.not_mem_nil, or_false] at hm
    rcases hm with rfl | rfl <;> rfl

theorem head?_mark_append {radix : Radix} {mark digits : Text} (hm : mark ∈ radix.marks)
    (hd : ∀ c ∈ digits, radix.isDigit c = true) :
    ∀ c ∈ (mark ++ digits).head?, c ≠ '+' ∧ c ≠ '-' := by
  intro c hc
  cases radix with
  | decimal =>
    simp only [Radix.marks, List.mem_singleton] at hm
    subst hm
    have h := Radix.isDigit_ne (hd c (List.mem_of_mem_head? hc))
    exact ⟨h.1, h.2.1⟩
  | hexadecimal =>
    have h0 : c = '0' := by
      simp only [Radix.marks, List.mem_cons, List.not_mem_nil, or_false] at hm
      rcases hm with rfl | rfl <;> simpa using hc.symm
    subst h0
    decide

theorem splitSign_eq {t : Text} {negative : Bool} {rest : Text}
    (h : splitSign t = (negative, rest)) :
    ∃ sign, (sign, if negative then -1 else 1) ∈ signs ∧ t = sign ++ rest := by
  unfold splitSign at h
  split at h <;> cases h
  · exact ⟨['-'], by decide, rfl⟩
  · exact ⟨['+'], by decide, rfl⟩
  · exact ⟨[], by decide, rfl⟩

theorem splitRadix_eq {t : Text} {radix : Radix} {digits : Text}
    (h : splitRadix t = (radix, digits)) : ∃ mark ∈ radix.marks, t = mark ++ digits := by
  unfold splitRadix at h
  split at h <;> cases h
  · exact ⟨"0x".toList, by decide, rfl⟩
  · exact ⟨"0X".toList, by decide, rfl⟩
  · exact ⟨[], by decide, rfl⟩

/-- The value of a numeral that was read is the integer that its text denotes. -/
theorem denotes_of_read? {t : Text} {n : Numeral} (h : read? t = some n) :
    Denotes n.radix t n.value := by
  unfold read? at h
  rcases hs : splitSign t with ⟨negative, unsigned⟩
  rcases hr : splitRadix unsigned with ⟨radix, digits⟩
  simp only [hs, hr, Option.ite_none_right_eq_some, Option.some.injEq] at h
  obtain ⟨hd, rfl⟩ := h
  obtain ⟨hne, hall⟩ := (radix.areDigits_iff digits).mp hd
  obtain ⟨sign, hsign, rfl⟩ := splitSign_eq hs
  obtain ⟨mark, hmark, rfl⟩ := splitRadix_eq hr
  have h := Denotes.of_digits hsign hmark hne hall
  rw [List.append_assoc] at h
  cases negative <;> simpa [value, magnitude] using h

theorem read?_of_denotes {radix : Radix} {t : Text} {v : Int} (h : Denotes radix t v) :
    ∃ n, read? t = some n ∧ n.radix = radix ∧ n.value = v := by
  obtain ⟨sign, mark, digits, factor, hs, hm, hne, hd, rfl, rfl⟩ := h.exists_digits
  have hdigits : radix.areDigits digits = true := (radix.areDigits_iff digits).mpr ⟨hne, hd⟩
  refine ⟨⟨factor == -1, radix, digits⟩, ?_, rfl, ?_⟩
  · rw [read?, List.append_assoc, splitSign_append hs (head?_mark_append hm hd)]
    simp [splitRadix_append hm hd, hdigits]
  · simp only [value, magnitude]
    simp only [signs, List.mem_cons, Prod.mk.injEq, List.not_mem_nil, or_false] at hs
    rcases hs with ⟨-, rfl⟩ | ⟨-, rfl⟩ | ⟨-, rfl⟩ <;> simp

/-- Reading finds exactly the integers that texts denote. -/
theorem denotes_iff_read? {radix : Radix} {t : Text} {v : Int} :
    Denotes radix t v ↔ ∃ n, read? t = some n ∧ n.radix = radix ∧ n.value = v := by
  constructor
  · exact read?_of_denotes
  · rintro ⟨n, hn, rfl, rfl⟩
    exact denotes_of_read? hn

end Numeral

namespace Denotes

/-- A text denotes at most one integer, and in one radix only. -/
theorem unique {radix radix' : Radix} {t : Text} {v v' : Int} (h : Denotes radix t v)
    (h' : Denotes radix' t v') : radix = radix' ∧ v = v' := by
  obtain ⟨n, hn, rfl, rfl⟩ := Numeral.read?_of_denotes h
  obtain ⟨m, hm, rfl, rfl⟩ := Numeral.read?_of_denotes h'
  cases hn.symm.trans hm
  exact ⟨rfl, rfl⟩

theorem ne_nil {radix : Radix} {t : Text} {v : Int} (h : Denotes radix t v) : t ≠ [] := by
  obtain ⟨-, -, hne, -⟩ := h
  simp [hne]

/-- The characters of a numeral: signs, the marks of the radix and digits, all of them visible. -/
theorem toNat_mem {radix : Radix} {t : Text} {v : Int} (h : Denotes radix t v) {c : Char}
    (hc : c ∈ t) : c = '+' ∨ c = '-' ∨ (0x30 ≤ c.toNat ∧ c.toNat ≤ 0x78) := by
  obtain ⟨sign, mark, digits, factor, hs, hm, -, hd, rfl, -⟩ := h.exists_digits
  simp only [List.mem_append] at hc
  rcases hc with (hc | hc) | hc
  · simp only [Numeral.signs, List.mem_cons, Prod.mk.injEq, List.not_mem_nil, or_false] at hs
    rcases hs with ⟨rfl, -⟩ | ⟨rfl, -⟩ | ⟨rfl, -⟩ <;> simp_all
  · right
    right
    have hmarks : ∀ m ∈ Radix.marks radix,
        m.all (fun c => 0x30 ≤ c.toNat ∧ c.toNat ≤ 0x78) = true := by
      cases radix <;> decide
    simpa using List.all_eq_true.mp (hmarks _ hm) c hc
  · have := Radix.toNat_of_isDigit (hd c hc)
    omega

theorem solid {radix : Radix} {t : Text} {v : Int} (h : Denotes radix t v) : Text.Solid t := by
  intro c hc
  rcases h.toNat_mem hc with rfl | rfl | hc
  · decide
  · decide
  · exact Text.isBlank_eq_false (by omega) (by omega)

theorem not_isDelimiter {radix : Radix} {t : Text} {v : Int} (h : Denotes radix t v) {c : Char}
    (hc : c ∈ t) : isDelimiter c = false := by
  rw [Bool.eq_false_iff]
  intro hdelim
  simp only [isDelimiter, isSpacer, Bool.or_eq_true, beq_iff_eq] at hdelim
  rcases h.toNat_mem hc with rfl | rfl | ⟨hlow, -⟩
  · revert hdelim
    decide
  · revert hdelim
    decide
  · rcases hdelim with (((rfl | rfl) | rfl) | rfl) | (((rfl | rfl) | rfl) | rfl) | rfl <;>
      revert hlow <;> decide

end Denotes

end MipsEncoding
