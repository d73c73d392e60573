import MipsEncoding.Text

/-! Numerals: an optional sign, then decimal digits, or `0x` or `0X` and hexadecimal digits. A
numeral denotes an integer of any size; whether that integer fits somewhere is decided where it is
used. -/
namespace MipsEncoding

inductive Radix
  | decimal
  | hexadecimal
  deriving DecidableEq, Repr

namespace Radix

def base : Radix → Nat
  | decimal => 10
  | hexadecimal => 16

/-- Whether a character is a digit. Only the ASCII digits and letters count. -/
def isDigit : Radix → Char → Bool
  | decimal, c => c.isDigit
  | hexadecimal, c => c.isDigit || ('a' ≤ c && c ≤ 'f') || ('A' ≤ c && c ≤ 'F')

end Radix

def digitValue (c : Char) : Nat :=
  if c.isDigit then c.toNat - '0'.toNat
  else if 'a' ≤ c && c ≤ 'f' then c.toNat - 'a'.toNat + 10
  else c.toNat - 'A'.toNat + 10

namespace Radix

def areDigits (radix : Radix) (t : Text) : Bool := !t.isEmpty && t.all radix.isDigit

/-- The number that digits denote, the most significant first. -/
def valueOf (radix : Radix) (digits : Text) : Nat :=
  digits.foldl (fun acc c => acc * radix.base + digitValue c) 0

end Radix

/-- A numeral: whether it has a minus sign, its radix and its digits as written. -/
structure Numeral where
  negative : Bool
  radix : Radix
  digits : Text
  deriving DecidableEq, Repr

namespace Numeral

/-- Takes a sign off the front of a text. The flag says whether it was a minus sign. -/
def splitSign : Text → Bool × Text
  | '-' :: t => (true, t)
  | '+' :: t => (false, t)
  | t => (false, t)

def dropPlus : Text → Text
  | '+' :: t => t
  | t => t

def splitRadix : Text → Radix × Text
  | '0' :: 'x' :: t => (.hexadecimal, t)
  | '0' :: 'X' :: t => (.hexadecimal, t)
  | t => (.decimal, t)

/-- Reads a whole text as a numeral. There must be at least one digit. -/
def read? (t : Text) : Option Numeral :=
  let (negative, unsigned) := splitSign t
  let (radix, digits) := splitRadix unsigned
  if radix.areDigits digits then some ⟨negative, radix, digits⟩ else none

def magnitude (n : Numeral) : Nat := n.radix.valueOf n.digits

def value (n : Numeral) : Int := if n.negative then -(n.magnitude : Int) else n.magnitude

def largestMagnitude : Nat := 0x7FFFFFFFFFFFFFFF

/-- The integer a numeral denotes, with its magnitude cut off at the largest one. -/
def saturated (n : Numeral) : Int :=
  let magnitude := min n.magnitude largestMagnitude
  if n.negative then -(magnitude : Int) else magnitude

theorem saturated_eq_value {n : Numeral} (h : n.magnitude ≤ largestMagnitude) :
    n.saturated = n.value := by
  simp [saturated, value, Nat.min_eq_left h]

end Numeral

/-- Whether an integer fits a signed word of 32 bits. -/
def fitsSignedWord (value : Int) : Bool := -0x80000000 ≤ value && value < 0x80000000

end MipsEncoding
