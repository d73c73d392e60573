import Mathlib.Data.List.Induction
import Mathlib.Data.Nat.Digits.Defs
import Mathlib.Tactic.Ring
import MipsEncoding.Numeral
import MipsEncoding.BitField
import MipsEncoding.Proofs.Runs

/-! Words as texts. A text of binary digits and the number it denotes by place value determine each
other once the width is fixed, and the binary and the hexadecimal form of a word are the digits of
that number, filled up with zeros. -/
namespace MipsEncoding

/-- A number in a base, filled up with zeros on the left to a width. -/
def Text.fixedWidth (base width n : Nat) : Text := (Nat.toDigits base n).leftpad width '0'

theorem Text.fixedWidth_one {base n : Nat} (h : n < base) :
    fixedWidth base 1 n = [Nat.digitChar n] := by
  simp [fixedWidth, List.leftpad, Nat.toDigits_of_lt_base h]

/-- The last digit of a number stands for its remainder, the others for the quotient. -/
theorem Text.fixedWidth_succ {base width : Nat} (hb : 1 < base) (hw : 0 < width) (n : Nat) :
    fixedWidth base (width + 1) n =
      fixedWidth base width (n / base) ++ [Nat.digitChar (n % base)] := by
  obtain ⟨width, rfl⟩ : ∃ k, width = k + 1 := ⟨width - 1, by omega⟩
  simp only [fixedWidth, List.leftpad]
  rw [Nat.toDigits_eq_if hb]
  split
  · next h =>
    rw [Nat.div_eq_of_lt h, Nat.mod_eq_of_lt h, Nat.toDigits_zero]
    simp [List.replicate_succ']
  · simp

namespace Bits

/-- The number that digits denote by place value. -/
def placeValue (bits : Text) : Nat := Nat.ofDigits 2 (bits.reverse.map digitValue)

theorem toNat_append_singleton (bits : Text) (c : Char) :
    toNat (bits ++ [c]) = 2 * toNat bits + if c == '1' then 1 else 0 := by
  rw [toNat, List.foldl_append, ← toNat]
  rfl

theorem toNat_append (s t : Text) : toNat (s ++ t) = toNat s * 2 ^ t.length + toNat t := by
  induction t using List.reverseRecOn with
  | nil => simp [toNat]
  | append_singleton t c ih =>
    rw [← List.append_assoc, toNat_append_singleton, toNat_append_singleton, ih,
      List.length_append, List.length_singleton, pow_succ]
    ring

theorem toNat_lt (bits : Text) : toNat bits < 2 ^ bits.length := by
  induction bits using List.reverseRecOn with
  | nil => simp [toNat]
  | append_singleton bits c ih =>
    rw [toNat_append_singleton, List.length_append, List.length_singleton, pow_succ]
    split <;> omega

theorem toNat_ofNat (width n : Nat) : toNat (ofNat width n) = n % 2 ^ width := by
  induction width generalizing n with
  | zero => simp [ofNat, toNat, Nat.mod_one]
  | succ width ih =>
    have step : toNat (ofNat width (n / 2) ++ [digit n]) =
        2 * toNat (ofNat width (n / 2)) + n % 2 := by
      rw [toNat, List.foldl_append, ← toNat]
      have : n % 2 = 0 ∨ n % 2 = 1 := by omega
      rcases this with h | h <;> simp [digit, h]
    rw [ofNat, step, ih, Nat.pow_succ, Nat.mul_comm (2 ^ width) 2, Nat.mod_mul]
    omega

theorem isDigit_iff {c : Char} : isDigit c = true ↔ c = '0' ∨ c = '1' := by
  simp [isDigit]

theorem all_isDigit_iff {bits : Text} :
    bits.all isDigit = true ↔ ∀ c ∈ bits, c = '0' ∨ c = '1' := by
  simp only [List.all_eq_true, isDigit_iff]

theorem placeValue_eq_toNat {bits : Text} (h : bits.all isDigit = true) :
    placeValue bits = toNat bits := by
  induction bits using List.reverseRecOn with
  | nil => rfl
  | append_singleton bits c ih =>
    simp only [List.all_append, Bool.and_eq_true, List.all_cons, List.all_nil, Bool.and_true] at h
    have hi := ih h.1
    rw [placeValue, List.reverse_append, List.reverse_singleton, List.singleton_append,
      List.map_cons, Nat.ofDigits_cons, ← placeValue, hi, toNat_append_singleton]
    rcases isDigit_iff.mp h.2 with rfl | rfl
    · simp [digitValue]
    · simp [digitValue, Nat.add_comm]

/-- Binary digits are determined by their number and the number they denote. -/
theorem ofNat_toNat {bits : Text} (h : bits.all isDigit = true) :
    ofNat bits.length (toNat bits) = bits := by
  induction bits using List.reverseRecOn with
  | nil => rfl
  | append_singleton bits c ih =>
    simp only [List.all_append, Bool.and_eq_true, List.all_cons, List.all_nil, Bool.and_true] at h
    rw [List.length_append, List.length_singleton, ofNat, toNat_append_singleton]
    rcases isDigit_iff.mp h.2 with rfl | rfl
    · have hdiv : (2 * toNat bits + if ('0' == '1') = true then 1 else 0) / 2 = toNat bits := by
        simp
      rw [hdiv, ih h.1]
      simp [digit]
    · have hdiv : (2 * toNat bits + if ('1' == '1') = true then 1 else 0) / 2 = toNat bits := by
        simp only [beq_self_eq_true, if_true]
        omega
      rw [hdiv, ih h.1]
      simp [digit]

theorem eq_of_toNat_eq {s t : Text} (hlen : s.length = t.length) (hs : s.all isDigit = true)
    (ht : t.all isDigit = true) (h : toNat s = toNat t) : s = t := by
  rw [← ofNat_toNat hs, ← ofNat_toNat ht, hlen, h]

theorem digit_eq_digitChar (n : Nat) : digit n = Nat.digitChar (n % 2) := by
  rcases Nat.mod_two_eq_zero_or_one n with h | h <;> simp [digit, h]

theorem ofNat_eq_fixedWidth {width n : Nat} (hn : n < 2 ^ (width + 1)) :
    ofNat (width + 1) n = Text.fixedWidth 2 (width + 1) n := by
  induction width generalizing n with
  | zero =>
    have hn' : n < 2 := by simpa using hn
    rw [Text.fixedWidth_one hn', ofNat, ofNat, List.nil_append, digit_eq_digitChar,
      Nat.mod_eq_of_lt hn']
  | succ width ih =>
    have hdiv : n / 2 < 2 ^ (width + 1) := by
      rw [pow_succ] at hn
      omega
    have hstep := Text.fixedWidth_succ (Nat.one_lt_two) (Nat.succ_pos width) n
    rw [hstep, ofNat, ih hdiv, digit_eq_digitChar]

theorem byteSize_eq_length {bits : Text} (h : bits.all isDigit = true) :
    bits.byteSize = bits.length := by
  induction bits with
  | nil => rfl
  | cons c bits ih =>
    simp only [List.all_cons, Bool.and_eq_true] at h
    have hc : c.utf8Size = 1 := by
      rcases isDigit_iff.mp h.1 with rfl | rfl <;> decide
    rw [Text.byteSize_cons, ih h.2, hc, List.length_cons]
    omega

end Bits

namespace Word

theorem exists_quad {k : Nat} {s : Text} (hs : s.length = 4 * (k + 1)) :
    ∃ u v, u.length = 4 ∧ v.length = 4 * k ∧ s = u ++ v := by
  refine ⟨s.take 4, s.drop 4, ?_, ?_, (List.take_append_drop 4 s).symm⟩
  · rw [List.length_take]
    omega
  · rw [List.length_drop]
    omega

theorem nibbles_append {s : Text} {k : Nat} (hs : s.length = 4 * k) (t : Text) :
    nibbles (s ++ t) = nibbles s ++ nibbles t := by
  induction k generalizing s with
  | zero =>
    obtain rfl : s = [] := by simpa using hs
    simp [nibbles]
  | succ k ih =>
    obtain ⟨u, v, hu, hv, rfl⟩ := exists_quad hs
    match u with
    | [a, b, c, d] => simp [nibbles, ih hv]

theorem nibbles_quad {s : Text} (hs : s.length = 4) : nibbles s = [hexDigit (Bits.toNat s)] := by
  match s with
  | [a, b, c, d] => rfl

/-- The hexadecimal digits of a text of binary digits are those of the number it denotes. -/
theorem nibbles_eq_fixedWidth {k : Nat} {bits : Text} (hlen : bits.length = 4 * (k + 1)) :
    nibbles bits = (Text.fixedWidth 16 (k + 1) (Bits.toNat bits)).map Char.toUpper := by
  induction k generalizing bits with
  | zero =>
    have hlt : Bits.toNat bits < 16 := by simpa [hlen] using Bits.toNat_lt bits
    rw [nibbles_quad hlen, Text.fixedWidth_one hlt]
    rfl
  | succ k ih =>
    have hfirst : (bits.take (4 * (k + 1))).length = 4 * (k + 1) := by
      rw [List.length_take]
      omega
    have hlast : (bits.drop (4 * (k + 1))).length = 4 := by
      rw [List.length_drop]
      omega
    have hvalue := Bits.toNat_append (bits.take (4 * (k + 1))) (bits.drop (4 * (k + 1)))
    have hlt := Bits.toNat_lt (bits.drop (4 * (k + 1)))
    rw [hlast] at hvalue hlt
    rw [List.take_append_drop] at hvalue
    have hdiv : Bits.toNat bits / 16 = Bits.toNat (bits.take (4 * (k + 1))) := by omega
    have hmod : Bits.toNat bits % 16 = Bits.toNat (bits.drop (4 * (k + 1))) := by omega
    have hstep : Text.fixedWidth 16 (k + 1 + 1) (Bits.toNat bits) = _ :=
      Text.fixedWidth_succ (by omega) (Nat.succ_pos k) (Bits.toNat bits)
    rw [hstep, hdiv, hmod, List.map_append, ← ih hfirst]
    conv_lhs => rw [← List.take_append_drop (4 * (k + 1)) bits]
    rw [nibbles_append hfirst, nibbles_quad hlast]
    rfl

/-- The binary digits of hexadecimal digits, four for each. -/
def expand (digits : Text) : Text := digits.flatMap fun c => Text.fixedWidth 2 4 (digitValue c)

theorem expand_cons (c : Char) (digits : Text) :
    expand (c :: digits) = Text.fixedWidth 2 4 (digitValue c) ++ expand digits := by
  rw [expand, List.flatMap_cons, ← expand]

theorem digitValue_hexDigit {n : Nat} (h : n < 16) : digitValue (hexDigit n) = n := by
  have hdigits : ∀ n < 16, digitValue (hexDigit n) = n := by decide
  exact hdigits n h

theorem nibbles_cons_quad {u : Text} (hu : u.length = 4) (v : Text) :
    nibbles (u ++ v) = hexDigit (Bits.toNat u) :: nibbles v := by
  rw [nibbles_append (k := 1) hu, nibbles_quad hu, List.singleton_append]

theorem toNat_quad_lt {u : Text} (hu : u.length = 4) : Bits.toNat u < 16 := by
  simpa [hu] using Bits.toNat_lt u

/-- The hexadecimal digits of a text keep its binary digits. -/
theorem expand_nibbles {k : Nat} {bits : Text} (hlen : bits.length = 4 * k)
    (h : bits.all Bits.isDigit = true) : expand (nibbles bits) = bits := by
  induction k generalizing bits with
  | zero =>
    rw [List.length_eq_zero_iff.mp hlen]
    rfl
  | succ k ih =>
    obtain ⟨u, v, hu, hv, rfl⟩ := exists_quad hlen
    rw [List.all_append, Bool.and_eq_true] at h
    have hlt := toNat_quad_lt hu
    have hquad := Bits.ofNat_toNat h.1
    rw [hu, Bits.ofNat_eq_fixedWidth hlt] at hquad
    rw [nibbles_cons_quad hu, expand_cons, digitValue_hexDigit hlt, hquad, ih hv h.2]

/-- Binary digits are determined by their hexadecimal digits. -/
theorem nibbles_injective {k : Nat} {s t : Text} (hs : s.length = 4 * k) (ht : t.length = 4 * k)
    (hsd : s.all Bits.isDigit = true) (htd : t.all Bits.isDigit = true)
    (h : nibbles s = nibbles t) : s = t := by
  rw [← expand_nibbles hs hsd, ← expand_nibbles ht htd, h]

theorem hexOfBinary_of_digits {binary : Text} (hlen : binary.length = 32)
    (h : binary.all Bits.isDigit = true) :
    hexOfBinary binary = Run.ok ("0x".toList ++ nibbles binary) := by
  rw [hexOfBinary, if_pos ⟨by rw [Bits.byteSize_eq_length h, hlen], h⟩]

theorem ofBinary?_of_digits {binary : Text} (hlen : binary.length = 32)
    (h : binary.all Bits.isDigit = true) :
    ofBinary? binary = some (BitVec.ofNat 32 (Bits.toNat binary)) := by
  have hplus : Numeral.dropPlus binary = binary := by
    unfold Numeral.dropPlus
    split
    · next t =>
      simp only [List.all_cons, Bool.and_eq_true] at h
      exact absurd h.1 (by decide)
    · rfl
  have hne : binary ≠ [] := by
    rintro rfl
    simp at hlen
  have hlt : Bits.toNat binary < 2 ^ 32 := by simpa only [hlen] using Bits.toNat_lt binary
  simp only [ofBinary?, hplus, h, Bool.and_true]
  rw [if_pos]
  simpa [hne] using hlt

theorem toNat_ofBinary? {binary : Text} {w : BitVec 32} (hlen : binary.length = 32)
    (h : binary.all Bits.isDigit = true) (hw : ofBinary? binary = some w) :
    w.toNat = Bits.toNat binary := by
  rw [ofBinary?_of_digits hlen h] at hw
  cases hw
  have hlt : Bits.toNat binary < 2 ^ 32 := by simpa only [hlen] using Bits.toNat_lt binary
  rw [BitVec.toNat_ofNat, Nat.mod_eq_of_lt hlt]

end Word

end MipsEncoding
