import MipsEncoding.Proofs.OperandErrors

/-! Shift amounts. A piece is a shift amount exactly if it is a decimal numeral from 0 to 31; any other
decimal numeral is out of range, however many digits it has. What is no decimal numeral should be no
shift amount at all, but it counts as out of range where its first bad lexeme is a number too large
for a token: the cause of a bad lexeme tells neither its radix nor what stands beside it. -/
namespace MipsEncoding.Operands
open Text

/-- A decimal numeral of an integer that is no amount to shift by. -/
def IsOutOfRange (piece : Text) : Prop := ∃ v, Denotes .decimal piece v ∧ (v < 0 ∨ 31 < v)

/-- Any text but a decimal numeral. -/
def IsNotDecimal (piece : Text) : Prop := ∀ v, ¬ Denotes .decimal piece v

section Forms

variable {piece : Text} {radix : Radix} {v : Int}

/-- A numeral has a bad lexeme, which is all of it, exactly if it leaves the range of 32 bits. -/
theorem firstRefused_iff_of_denotes (h : Denotes radix piece v) :
    FirstRefused .numberTooLarge piece ↔ v < -2 ^ 31 ∨ 2 ^ 31 ≤ v := by
  rw [← Literal.read_eq_numberTooLarge_iff, Literal.read_of_denotes h]
  split
  · next hfits =>
    have hrange := fitsSignedWord_iff.mp hfits
    simp only [reduceCtorEq, false_iff]
    omega
  · next hfits =>
    rw [fitsSignedWord_iff] at hfits
    simp only [true_iff]
    omega

/-- A decimal numeral is a shift amount or out of range. -/
theorem accepts_shamt_or_isOutOfRange (h : Denotes .decimal piece v) :
    Accepts .shamt piece ∨ IsOutOfRange piece := by
  by_cases hrange : 0 ≤ v ∧ v ≤ 31
  · exact .inl ⟨v, h, hrange⟩
  · exact .inr ⟨v, h, by omega⟩

theorem IsOutOfRange.not_accepts (h : IsOutOfRange piece) : ¬ Accepts .shamt piece := by
  obtain ⟨v, hv, hwide⟩ := h
  rintro ⟨n, hn, hlow, hhigh⟩
  have := (hv.unique hn).2
  omega

theorem IsNotDecimal.not_accepts (h : IsNotDecimal piece) : ¬ Accepts .shamt piece := by
  rintro ⟨n, hn, -⟩
  exact h n hn

theorem assign_shamt_eq_ok_iff (ht : Trimmed piece) {ops ops' : Operands} :
    ops.assign .shamt piece = .ok ops' ↔
      ∃ n : Nat, n ≤ 31 ∧ Denotes .decimal piece n ∧ ops' = { ops with shiftAmount := some n } := by
  rw [assign_eq_ok_iff ht]
  refine exists_congr fun n => ?_
  rw [Nat.lt_succ_iff, and_left_comm]

theorem assign_shamt_eq_error_iff (ht : Trimmed piece) {ops : Operands} {e : OperandError} :
    ops.assign .shamt piece = .error e ↔
      (e = .shiftOutOfRange piece ∧
        (IsOutOfRange piece ∨ IsNotDecimal piece ∧ FirstRefused .numberTooLarge piece)) ∨
      (e = .notAnImmediate piece ∧ IsNotDecimal piece ∧ ¬ FirstRefused .numberTooLarge piece) := by
  rw [assign_eq_error_iff ht]
  constructor
  · rintro ⟨hrefuses, ⟨hnumber, rfl⟩ | ⟨hnumber, rfl⟩⟩
    · refine .inl ⟨rfl, ?_⟩
      by_cases hdecimal : ∃ v, Denotes .decimal piece v
      · obtain ⟨v, hv⟩ := hdecimal
        exact .inl ((accepts_shamt_or_isOutOfRange hv).resolve_left hrefuses)
      · exact .inr ⟨not_exists.mp hdecimal, hnumber.resolve_left hdecimal⟩
    · obtain ⟨hdecimal, hfirst⟩ := not_or.mp hnumber
      exact .inr ⟨rfl, not_exists.mp hdecimal, hfirst⟩
  · rintro (⟨rfl, hwide | ⟨hnone, hfirst⟩⟩ | ⟨rfl, hnone, hfirst⟩)
    · have hrefuses := hwide.not_accepts
      obtain ⟨v, hv, -⟩ := hwide
      exact ⟨hrefuses, .inl ⟨.inl ⟨v, hv⟩, rfl⟩⟩
    · exact ⟨hnone.not_accepts, .inl ⟨.inr hfirst, rfl⟩⟩
    · exact ⟨hnone.not_accepts, .inr ⟨not_or.mpr ⟨not_exists.mpr hnone, hfirst⟩, rfl⟩⟩

theorem isNotDecimal_of_hexadecimal (h : Denotes .hexadecimal piece v) : IsNotDecimal piece := by
  intro v' h'
  cases (h.unique h').1

end Forms

/-- What becomes of a piece in the role of a shift amount. Decimal numerals are judged by the integer
they denote; a hexadecimal numeral, which is never a shift amount, is called out of range exactly if
it leaves the range of 32 bits. -/
theorem assign_shamt_by_form {piece : Text} (ht : Trimmed piece) (ops : Operands) :
    (∀ ops', ops.assign .shamt piece = .ok ops' ↔
      ∃ n : Nat, n ≤ 31 ∧ Denotes .decimal piece n ∧ ops' = { ops with shiftAmount := some n }) ∧
    (∀ e, ops.assign .shamt piece = .error e ↔
      (e = .shiftOutOfRange piece ∧
        (IsOutOfRange piece ∨ IsNotDecimal piece ∧ FirstRefused .numberTooLarge piece)) ∨
      (e = .notAnImmediate piece ∧ IsNotDecimal piece ∧ ¬ FirstRefused .numberTooLarge piece)) ∧
    ∀ v, Denotes .hexadecimal piece v →
      (ops.assign .shamt piece = .error (.shiftOutOfRange piece) ↔ v < -2 ^ 31 ∨ 2 ^ 31 ≤ v) := by
  refine ⟨fun _ => assign_shamt_eq_ok_iff ht, fun _ => assign_shamt_eq_error_iff ht, ?_⟩
  intro v hv
  have hnone := isNotDecimal_of_hexadecimal hv
  rw [assign_shamt_eq_error_iff ht, ← firstRefused_iff_of_denotes hv]
  constructor
  · rintro (⟨-, ⟨v', hv', -⟩ | ⟨-, hfirst⟩⟩ | ⟨hcause, -⟩)
    · exact absurd hv' (hnone v')
    · exact hfirst
    · cases hcause
  · intro hfirst
    exact .inl ⟨rfl, .inr ⟨hnone, hfirst⟩⟩

/-- However long a decimal numeral is, it is out of range. -/
theorem assign_shamt_by_form_long :
    Trimmed "-99999999999".toList ∧ Denotes .decimal "-99999999999".toList (-99999999999) ∧
      assign {} .shamt "-99999999999".toList = .error (.shiftOutOfRange "-99999999999".toList) := by
  have hdenotes : Denotes .decimal "-99999999999".toList (-99999999999) :=
    Numeral.denotes_of_read? (n := ⟨true, .decimal, "99999999999".toList⟩) (by decide)
  have ht : Trimmed "-99999999999".toList := hdenotes.solid.trimmed
  obtain ⟨-, herror, -⟩ := assign_shamt_by_form ht {}
  exact ⟨ht, hdenotes, (herror _).mpr (.inl ⟨rfl, .inl ⟨_, hdenotes, by omega⟩⟩)⟩

/-- Two hexadecimal numerals, of which only the small one is said to be no shift amount. -/
theorem hexadecimal_shamt_outOfRange :
    IsNotDecimal "0x80000000".toList ∧ IsNotDecimal "0x1F".toList ∧
      assign {} .shamt "0x80000000".toList = .error (.shiftOutOfRange "0x80000000".toList) ∧
      assign {} .shamt "0x1F".toList = .error (.notAnImmediate "0x1F".toList) := by
  have hlarge : Denotes .hexadecimal "0x80000000".toList 0x80000000 :=
    Numeral.denotes_of_read? (n := ⟨false, .hexadecimal, "80000000".toList⟩) (by decide)
  have hsmall : Denotes .hexadecimal "0x1F".toList 0x1F :=
    Numeral.denotes_of_read? (n := ⟨false, .hexadecimal, "1F".toList⟩) (by decide)
  have hlargeNone := isNotDecimal_of_hexadecimal hlarge
  have hsmallNone := isNotDecimal_of_hexadecimal hsmall
  have hlargeFirst := (firstRefused_iff_of_denotes hlarge).mpr (by omega)
  have hsmallFirst : ¬ FirstRefused .numberTooLarge "0x1F".toList := by
    rw [firstRefused_iff_of_denotes hsmall]
    omega
  refine ⟨hlargeNone, hsmallNone, ?_, ?_⟩
  · rw [assign_shamt_eq_error_iff hlarge.solid.trimmed]
    exact .inl ⟨rfl, .inr ⟨hlargeNone, hlargeFirst⟩⟩
  · rw [assign_shamt_eq_error_iff hsmall.solid.trimmed]
    exact .inr ⟨rfl, hsmallNone, hsmallFirst⟩

end MipsEncoding.Operands
