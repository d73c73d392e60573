import MipsEncoding.Proofs.Encoding

/-! Bit fields as a code for integers. `decode` reads the digits of a field by their weights, the
first digit of a signed field with a negative one. Encoding and decoding are inverse to each other
between the integers in the range of a field and the texts of its width. `encodeChecked` does the
same work on words of 64 bits and gives nothing on overflow; it always gives what `encode` gives. -/
namespace MipsEncoding.BitField

/-- The integers that a field of some width holds, from the lowest to the highest. -/
inductive IsRange : Signedness → Nat → Int → Int → Prop
  | signed (width : Nat) : IsRange .signed width (-2 ^ (width - 1)) (2 ^ (width - 1) - 1)
  | unsigned (width : Nat) : IsRange .unsigned width 0 (2 ^ width - 1)

/-- The integer that the digits of a field stand for. -/
def decode : Signedness → Text → Int
  | .unsigned, bits => Bits.placeValue bits
  | .signed, [] => 0
  | .signed, sign :: rest => Bits.placeValue rest - digitValue sign * 2 ^ rest.length

section Decoding

variable {s : Signedness} {width : Nat} {low high : Int}

theorem IsRange.eq (h : IsRange s width low high) :
    low = lowest s width ∧ high = highest s width := by
  cases h <;> exact ⟨rfl, rfl⟩

theorem toNat_cons {c : Char} (hc : Bits.isDigit c = true) (rest : Text) :
    Bits.toNat (c :: rest) = digitValue c * 2 ^ rest.length + Bits.toNat rest ∧
      (digitValue c = 0 ∨ digitValue c = 1) := by
  have happend := Bits.toNat_append [c] rest
  rcases Bits.isDigit_iff.mp hc with rfl | rfl
  · exact ⟨happend, .inl rfl⟩
  · exact ⟨happend, .inr rfl⟩

/-- A field holds the number that its digits denote, up to a multiple of the power of its width. -/
theorem decode_emod {bits : Text} (h : bits.all Bits.isDigit = true) :
    decode s bits % 2 ^ bits.length = Bits.toNat bits := by
  have hlt : (Bits.toNat bits : Int) < 2 ^ bits.length := by exact_mod_cast Bits.toNat_lt bits
  cases s with
  | unsigned =>
    rw [decode, Bits.placeValue_eq_toNat h]
    exact Int.emod_eq_of_lt (by omega) hlt
  | signed =>
    cases bits with
    | nil => rfl
    | cons c rest =>
      simp only [List.all_cons, Bool.and_eq_true] at h
      obtain ⟨hvalue, -⟩ := toNat_cons h.1 rest
      have hdecode : decode .signed (c :: rest) =
          Bits.toNat (c :: rest) + 2 ^ (c :: rest).length * -(digitValue c : Int) := by
        rw [decode, Bits.placeValue_eq_toNat h.2, hvalue, List.length_cons, pow_succ]
        push_cast
        ring
      rw [hdecode, Int.add_mul_emod_self_left]
      exact Int.emod_eq_of_lt (by omega) hlt

theorem IsRange.decode_mem {bits : Text} (hrange : IsRange s bits.length low high)
    (hne : bits ≠ []) (h : bits.all Bits.isDigit = true) :
    low ≤ decode s bits ∧ decode s bits ≤ high := by
  cases hrange with
  | unsigned =>
    have hlt : (Bits.toNat bits : Int) < 2 ^ bits.length := by exact_mod_cast Bits.toNat_lt bits
    rw [decode, Bits.placeValue_eq_toNat h]
    omega
  | signed =>
    obtain ⟨c, rest, rfl⟩ := List.exists_cons_of_ne_nil hne
    simp only [List.all_cons, Bool.and_eq_true] at h
    have hlt : (Bits.toNat rest : Int) < 2 ^ rest.length := by exact_mod_cast Bits.toNat_lt rest
    rw [decode, Bits.placeValue_eq_toNat h.2, List.length_cons, Nat.add_sub_cancel]
    rcases (toNat_cons h.1 rest).2 with hc | hc <;> rw [hc] <;> constructor <;> push_cast <;> omega

/-- Two integers in the range of a field have different residues. -/
theorem IsRange.eq_of_emod_eq (hrange : IsRange s width low high) (hw : 0 < width) {u v : Int}
    (hu : low ≤ u ∧ u ≤ high) (hv : low ≤ v ∧ v ≤ high) (h : u % 2 ^ width = v % 2 ^ width) :
    u = v := by
  obtain ⟨k, rfl⟩ : ∃ k, width = k + 1 := ⟨width - 1, by omega⟩
  have hdvd : (2 : Int) ^ (k + 1) ∣ u - v :=
    Int.dvd_of_emod_eq_zero (Int.emod_eq_emod_iff_emod_sub_eq_zero.mp h)
  have hsize : |u - v| < 2 ^ (k + 1) := by
    rw [abs_lt]
    cases hrange <;> simp only [Nat.add_sub_cancel, pow_succ] at * <;> omega
  have hzero := Int.eq_zero_of_abs_lt_dvd hdvd hsize
  omega

theorem decode_encoded (hrange : IsRange s width low high) (hw : 0 < width) {value : Int}
    (hvalue : low ≤ value ∧ value ≤ high) :
    decode s (Bits.ofNat width (value % 2 ^ width).toNat) = value := by
  have hdigits := Bits.all_isDigit_ofNat width (value % 2 ^ width).toNat
  have hlength := Bits.length_ofNat width (value % 2 ^ width).toNat
  have hne : Bits.ofNat width (value % 2 ^ width).toNat ≠ [] := by
    rw [ne_eq, ← List.length_eq_zero_iff, hlength]
    omega
  have hmem := IsRange.decode_mem (s := s) (hlength.symm ▸ hrange) hne hdigits
  have hresidue := decode_emod (s := s) hdigits
  have hpos : (0 : Int) < 2 ^ width := by positivity
  rw [hlength, Bits.toNat_ofNat] at hresidue
  apply hrange.eq_of_emod_eq hw hmem hvalue
  rw [hresidue]
  push_cast
  rw [Int.toNat_of_nonneg (Int.emod_nonneg _ hpos.ne'), Int.emod_emod_of_dvd _ dvd_rfl]

theorem encode_decode (s : Signedness) {bits : Text} (hne : bits ≠ []) (hlen : bits.length ≤ 32)
    (h : bits.all Bits.isDigit = true) :
    (encode (decode s bits) bits.length s).outcome = .ok bits := by
  obtain ⟨low, high, hrange⟩ : ∃ low high, IsRange s bits.length low high := by
    cases s
    · exact ⟨_, _, .signed _⟩
    · exact ⟨_, _, .unsigned _⟩
  obtain ⟨hlow, hhigh⟩ := hrange.decode_mem hne h
  obtain ⟨rfl, rfl⟩ := hrange.eq
  have hresidue := decode_emod (s := s) h
  rw [encode_of_mem (List.length_pos_iff.mpr hne) hlen hlow hhigh, hresidue, Int.toNat_natCast,
    Bits.ofNat_toNat h, Run.outcome_ok]

end Decoding

section MachineWords

/-- An integer that fits a signed word of 64 bits; one that does not has overflowed. -/
def checked (n : Int) : Option Int := if -2 ^ 63 ≤ n ∧ n < 2 ^ 63 then some n else none

/-- A one, moved to the left by less than the size of a word. -/
def shifted (count : Nat) : Option Int := if count < 64 then checked (2 ^ count) else none

def rangeChecked : Signedness → Nat → Option (Int × Int)
  | .signed, width => do
    let half ← shifted (width - 1)
    let low ← checked (-half)
    let high ← checked (half - 1)
    pure (low, high)
  | .unsigned, width => do
    let top ← shifted width
    let high ← checked (top - 1)
    pure (0, high)

def residueChecked (value : Int) (width : Nat) : Option Int :=
  if value < 0 then do
    let top ← shifted width
    checked (top + value)
  else pure value

/-- Encoding with words of 64 bits. The digits are those of a number in base 2, filled up with zeros,
and their number is checked in the end. -/
def encodeChecked (value : Int64) (width : UInt32) (s : Signedness) :
    Option (Run EncodingError Text) :=
  if width.toNat = 0 ∨ 32 < width.toNat then
    pure (Run.failNoting (.widthRefused value.toInt width.toNat) (.wrongFieldWidth width.toNat 0))
  else do
    let (low, high) ← rangeChecked s width.toNat
    if value.toInt < low ∨ high < value.toInt then
      pure (Run.fail (.outOfRange value.toInt low high))
    else
      let residue ← residueChecked value.toInt width.toNat
      let bits := Text.fixedWidth 2 width.toNat (residue % 2 ^ 64).toNat
      if bits.length = width.toNat then pure (Run.ok bits)
      else
        pure (Run.failNoting (.digitsRefused value.toInt width.toNat bits)
          (.wrongFieldWidth width.toNat bits.length))

variable {width : Nat}

theorem checked_of_mem {n : Int} (hlow : -2 ^ 63 ≤ n) (hhigh : n < 2 ^ 63) : checked n = some n :=
  if_pos ⟨hlow, hhigh⟩

theorem two_pow_le (h : width ≤ 32) : (2 : Int) ^ width ≤ 2 ^ 32 :=
  pow_le_pow_right₀ (by omega) h

theorem shifted_of_le (h : width ≤ 32) : shifted width = some (2 ^ width) := by
  have hle := two_pow_le h
  have hpos : (0 : Int) < 2 ^ width := by positivity
  rw [shifted, if_pos (by omega), checked_of_mem (by omega) (by omega)]

theorem rangeChecked_eq (s : Signedness) (h : width ≤ 32) :
    rangeChecked s width = some (lowest s width, highest s width) := by
  cases s with
  | signed =>
    have hwidth : width - 1 ≤ 32 := by omega
    have hle := two_pow_le hwidth
    have hpos : (0 : Int) < 2 ^ (width - 1) := by positivity
    have hlow : checked (-2 ^ (width - 1)) = some (-2 ^ (width - 1)) :=
      checked_of_mem (by omega) (by omega)
    have hhigh : checked (2 ^ (width - 1) - 1) = some (2 ^ (width - 1) - 1) :=
      checked_of_mem (by omega) (by omega)
    simp [rangeChecked, shifted_of_le hwidth, hlow, hhigh]
  | unsigned =>
    have hle := two_pow_le h
    have hpos : (0 : Int) < 2 ^ width := by positivity
    have hhigh : checked (2 ^ width - 1) = some (2 ^ width - 1) :=
      checked_of_mem (by omega) (by omega)
    simp [rangeChecked, shifted_of_le h, hhigh]

theorem residueChecked_eq {s : Signedness} {value : Int} (hw : 0 < width) (h : width ≤ 32)
    (hlow : lowest s width ≤ value) (hhigh : value ≤ highest s width) :
    residueChecked value width = some (value % 2 ^ width) := by
  have hle := two_pow_le h
  obtain ⟨k, rfl⟩ : ∃ k, width = k + 1 := ⟨width - 1, by omega⟩
  have hpos : (0 : Int) < 2 ^ k := by positivity
  have hmem : -2 ^ k ≤ value ∧ value < 2 ^ (k + 1) := by
    cases s <;> simp only [lowest_signed, lowest_unsigned, highest_signed, highest_unsigned,
      Nat.add_sub_cancel, pow_succ] at * <;> omega
  rw [pow_succ] at hle hmem
  unfold residueChecked
  split
  · next hneg =>
    have hresidue : value % 2 ^ (k + 1) = 2 ^ (k + 1) + value := by
      rw [← Int.add_emod_left, pow_succ]
      exact Int.emod_eq_of_lt (by omega) (by omega)
    rw [hresidue, shifted_of_le h, Option.bind_eq_bind, Option.bind_some, pow_succ]
    exact checked_of_mem (by omega) (by omega)
  · rw [pow_succ, Int.emod_eq_of_lt (by omega) (by omega)]
    rfl

/-- The digits of a residue need not be cut: filled up with zeros, they have the right length. -/
theorem fixedWidth_residue (value : Int) (hw : 0 < width) (h : width ≤ 32) :
    Text.fixedWidth 2 width (value % 2 ^ width % 2 ^ 64).toNat =
      Bits.ofNat width (value % 2 ^ width).toNat := by
  obtain ⟨k, rfl⟩ : ∃ k, width = k + 1 := ⟨width - 1, by omega⟩
  have hpos : (0 : Int) < 2 ^ (k + 1) := by positivity
  have hle := two_pow_le h
  have hnonneg := Int.emod_nonneg value hpos.ne'
  have hlt := Int.emod_lt_of_pos value hpos
  have hsmall : (value % 2 ^ (k + 1)).toNat < 2 ^ (k + 1) := by
    zify
    rwa [Int.toNat_of_nonneg hnonneg]
  rw [Int.emod_eq_of_lt hnonneg (by omega), Bits.ofNat_eq_fixedWidth hsmall]

/-- No word overflows, the digits come out at the right length, and the result and the journal are the
same. -/
theorem encodeChecked_eq (value : Int64) (width : UInt32) (s : Signedness) :
    encodeChecked value width s = some (encode value.toInt width.toNat s) := by
  unfold encodeChecked
  generalize value.toInt = value
  generalize width.toNat = width
  split
  · next hw =>
    rw [encode, if_pos hw]
    rfl
  · next hw =>
    have hwidth : width ≤ 32 := by omega
    simp only [rangeChecked_eq s hwidth, Option.bind_eq_bind, Option.bind_some]
    split
    · next hout =>
      rw [encode_of_not_mem (by omega) hwidth hout]
      rfl
    · next hin =>
      have hlow : lowest s width ≤ value := by omega
      have hhigh : value ≤ highest s width := by omega
      rw [residueChecked_eq (by omega) hwidth hlow hhigh, Option.bind_some,
        fixedWidth_residue value (by omega) hwidth, if_pos (Bits.length_ofNat _ _),
        encode_of_mem (by omega) hwidth hlow hhigh]
      rfl

end MachineWords

/-- Fields of 1 to 32 digits hold exactly the integers in their range, each in one way. Encoding on
words of 64 bits never overflows and comes to the same result with the same records. -/
theorem encode_exact_code (s : Signedness) :
    (∀ value width, width = 0 ∨ 32 < width →
      (encode value width s).outcome = .error (.wrongFieldWidth width 0)) ∧
    (∀ value width low high, 1 ≤ width → width ≤ 32 → IsRange s width low high →
      (low ≤ value ∧ value ≤ high → ∃ bits, (encode value width s).outcome = .ok bits ∧
        bits.length = width ∧ (∀ c ∈ bits, c = '0' ∨ c = '1') ∧ decode s bits = value) ∧
      (value < low ∨ high < value →
        (encode value width s).outcome = .error (.outOfRange value low high))) ∧
    (∀ bits : Text, 1 ≤ bits.length → bits.length ≤ 32 → (∀ c ∈ bits, c = '0' ∨ c = '1') →
      (encode (decode s bits) bits.length s).outcome = .ok bits) ∧
    ∀ (value : Int64) (width : UInt32),
      encodeChecked value width s = some (encode value.toInt width.toNat s) := by
  refine ⟨?_, ?_, ?_, ?_⟩
  · intro value width hw
    rw [encode, if_pos hw, Run.outcome_failNoting]
  · intro value width low high hw hw' hrange
    obtain ⟨rfl, rfl⟩ := hrange.eq
    constructor
    · intro hvalue
      refine ⟨_, ?_, Bits.length_ofNat _ _, ?_, decode_encoded hrange hw hvalue⟩
      · rw [encode_of_mem hw hw' hvalue.1 hvalue.2, Run.outcome_ok]
      · exact Bits.all_isDigit_iff.mp (Bits.all_isDigit_ofNat _ _)
    · intro hout
      rw [encode_of_not_mem hw hw' hout, Run.outcome_fail]
  · intro bits hlen hlen' hdigits
    exact encode_decode s (List.length_pos_iff.mp hlen) hlen' (Bits.all_isDigit_iff.mpr hdigits)
  · intro value width
    exact encodeChecked_eq value width s

/-- The lowest integer of the widest field has a code and its upper neighbour out of range has none. -/
theorem encode_exact_code_widest :
    (∃ bits, (encode (-2 ^ 31) 32 .signed).outcome = .ok bits ∧ bits.length = 32 ∧
      (∀ c ∈ bits, c = '0' ∨ c = '1') ∧ decode .signed bits = -2 ^ 31) ∧
    (encode (2 ^ 31) 32 .signed).outcome = .error (.outOfRange (2 ^ 31) (-2 ^ 31) (2 ^ 31 - 1)) ∧
    (encode 0 33 .signed).outcome = .error (.wrongFieldWidth 33 0) ∧
    decode .signed "10".toList = -2 ∧
    (encode (decode .signed "10".toList) 2 .signed).outcome = .ok "10".toList := by
  obtain ⟨hwidth, hrange, hdecode, -⟩ := encode_exact_code .signed
  have hwidest := fun value => hrange value 32 _ _ (by omega) (by omega) (.signed 32)
  refine ⟨(hwidest _).1 (by omega), (hwidest _).2 (by omega), hwidth 0 33 (by omega), rfl, ?_⟩
  exact hdecode "10".toList (by decide) (by decide) (by simp)

end MipsEncoding.BitField
