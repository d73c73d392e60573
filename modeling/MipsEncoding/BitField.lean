import MipsEncoding.Numeral
import MipsEncoding.Run

/-! Numbers written in binary, and the numbers that binary digits denote. -/
namespace MipsEncoding.Bits

def digit (n : Nat) : Char := if n % 2 = 1 then '1' else '0'

def isDigit (c : Char) : Bool := c == '0' || c == '1'

/-- The last `width` binary digits of a number, the most significant first. -/
def ofNat : Nat → Nat → Text
  | 0, _ => []
  | width + 1, n => ofNat width (n / 2) ++ [digit n]

/-- The number that binary digits denote, the most significant first. -/
def toNat (bits : Text) : Nat := bits.foldl (fun acc c => 2 * acc + if c == '1' then 1 else 0) 0

@[simp] theorem length_ofNat (width n : Nat) : (ofNat width n).length = width := by
  induction width generalizing n with
  | zero => rfl
  | succ width ih => simp [ofNat, ih]

theorem all_isDigit_ofNat (width n : Nat) : (ofNat width n).all isDigit = true := by
  induction width generalizing n with
  | zero => rfl
  | succ width ih =>
    rw [ofNat, List.all_append, ih]
    by_cases h : n % 2 = 1 <;> simp [digit, h, isDigit]

end MipsEncoding.Bits

/-! Integers in bit fields of 1 to 32 bits. An unsigned field holds a natural number, a signed one
an integer in two's complement. -/
namespace MipsEncoding

inductive Signedness
  | signed
  | unsigned
  deriving DecidableEq, Repr

namespace BitField

def lowest : Signedness → Nat → Int
  | .signed, width => -Int.pow 2 (width - 1)
  | .unsigned, _ => 0

def highest : Signedness → Nat → Int
  | .signed, width => Int.pow 2 (width - 1) - 1
  | .unsigned, width => Int.pow 2 width - 1

/-- The bits of a value in a field. A negative value is written as its residue modulo the power of
the width. A value in range always gets as many digits as the field is wide, so none is refused for
their number; `encodeChecked`, which counts them, is proved to do the same. -/
def encode (value : Int) (width : Nat) (signedness : Signedness) : Run EncodingError Text :=
  if width = 0 ∨ 32 < width then
    Run.failNoting (.widthRefused value width) (.wrongFieldWidth width 0)
  else if value < lowest signedness width ∨ highest signedness width < value then
    Run.fail (.outOfRange value (lowest signedness width) (highest signedness width))
  else
    Run.ok (Bits.ofNat width (value % Int.pow 2 width).toNat)

theorem length_of_encode {value : Int} {width : Nat} {signedness : Signedness} {bits : Text}
    (h : (encode value width signedness).outcome = .ok bits) : bits.length = width := by
  unfold encode at h
  split at h
  · simp [Run.failNoting] at h
  · split at h
    · simp [Run.fail] at h
    · cases h
      simp

end BitField

/-! The bit fields of an instruction word. The opcode is always there; which of the others are
there depends on the format. -/

structure Fields where
  opcode : Text
  rs : Option Text := none
  rt : Option Text := none
  rd : Option Text := none
  shamt : Option Text := none
  funct : Option Text := none
  immediate : Option Text := none
  address : Option Text := none
  deriving DecidableEq, Repr

namespace Fields

/-- The fields that are there, by name, from the most significant bits down. -/
def entries (f : Fields) : List (Text × Text) :=
  [("opcode".toList, some f.opcode), ("rs".toList, f.rs), ("rt".toList, f.rt), ("rd".toList, f.rd),
    ("shamt".toList, f.shamt), ("funct".toList, f.funct), ("immediate".toList, f.immediate),
    ("address".toList, f.address)].filterMap fun (name, bits?) => bits?.map fun bits => (name, bits)

def concat (f : Fields) : Text := f.entries.flatMap (·.2)

def grouped (f : Fields) : Text := [' '].intercalate (f.entries.map (·.2))

end Fields

end MipsEncoding

/-! Instruction words of 32 bits, in hexadecimal and as numbers. -/
namespace MipsEncoding.Word

def hexDigit (n : Nat) : Char := (Nat.digitChar n).toUpper

def nibbles : Text → Text
  | a :: b :: c :: d :: rest => hexDigit (Bits.toNat [a, b, c, d]) :: nibbles rest
  | _ => []

/-- A word in hexadecimal. It must be given by 32 binary digits. -/
def hexOfBinary (binary : Text) : Run EncodingError Text :=
  if binary.byteSize = 32 ∧ binary.all Bits.isDigit then Run.ok ("0x".toList ++ nibbles binary)
  else Run.failNoting (.binaryRefused binary) .notBinary

/-- The word that a text denotes in binary: at least one digit, of which leading zeros and a plus
sign count for nothing, and a value below `2 ^ 32`. -/
def ofBinary? (t : Text) : Option (BitVec 32) :=
  let digits := Numeral.dropPlus t
  if !digits.isEmpty && digits.all Bits.isDigit && Bits.toNat digits < 0x100000000 then
    some (BitVec.ofNat 32 (Bits.toNat digits))
  else none

end MipsEncoding.Word
