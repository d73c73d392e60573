import MipsEncoding.Instruction

/-! The wording of failures: what went wrong, and how to mend it where there is advice to give. -/
namespace MipsEncoding

def Text.inApostrophes (t : Text) : Text := "'".toList ++ t ++ "'".toList

/-- An address in uppercase hexadecimal; a negative one as its two's complement on 64 bits. -/
def Text.ofAddress (address : Int) : Text :=
  "0x".toList ++ (Text.ofNatHex (address % 0x10000000000000000).toNat).map Char.toUpper

namespace TokenError

def message : TokenError → Text
  | numberTooLarge => "numeric token does not fit 32-bit signed integer".toList
  | unknownRegister => "invalid register".toList
  | unknownSymbol => "unrecognized symbol".toList

def help : TokenError → Option Text
  | numberTooLarge =>
    some "the range for a 32-bit signed integer is [-2147483648, 2147483647]".toList
  | unknownRegister =>
    some "registers are named $zero, $at, $v0-$v1, $a0-$a3, $t0-$t9, $s0-$s8, $k0-$k1, $gp, $sp, $fp, $ra".toList
  | unknownSymbol => none

def stage (_ : TokenError) : Stage := .parsing

end TokenError

namespace LineError

def message : LineError → Text
  | empty => "instruction is empty".toList

def help : LineError → Option Text
  | empty => some "enter an instruction such as `add $t0, $s1, $s2`".toList

end LineError

namespace OperandError

def message : OperandError → Text
  | unknownMnemonic mnemonic => "unknown mnemonic ".toList ++ mnemonic.inApostrophes
  | wrongCount template found =>
    "expected operands ".toList ++ template.inApostrophes ++ ", found ".toList ++ found.inApostrophes
  | notARegister piece => "invalid register ".toList ++ piece.inApostrophes
  | notAnImmediate piece => "invalid immediate value ".toList ++ piece.inApostrophes
  | shiftOutOfRange piece =>
    "shift amount ".toList ++ piece.inApostrophes ++ " is out of range".toList
  | notAMemoryOperand piece => "invalid memory operand ".toList ++ piece.inApostrophes
  | notATarget piece => "invalid label or address ".toList ++ piece.inApostrophes
  | unknownRole name => "unknown operand format token ".toList ++ name.inApostrophes

def help : OperandError → Option Text
  | unknownMnemonic _ =>
    some ("supported instructions are: ".toList ++
      ", ".toList.intercalate (Catalog.definitions.map (·.mnemonic)))
  | wrongCount .. => some "operands are separated by commas".toList
  | notARegister _ => some "registers start with '$' (e.g., $t0, $s1, $zero)".toList
  | notAnImmediate _ =>
    some "immediates are decimal (e.g., -4) or hexadecimal starting with 0x (e.g., 0x1F)".toList
  | shiftOutOfRange _ => some "the shift amount is a decimal number in [0, 31]".toList
  | notAMemoryOperand _ => some "memory operands look like offset(register), e.g., 8($sp)".toList
  | notATarget _ =>
    some "targets are decimal, hexadecimal starting with 0x, or a label name".toList
  | unknownRole _ => none

end OperandError

namespace EncodingError

def message : EncodingError → Text
  | outOfRange value lowest highest =>
    "value ".toList ++ Text.ofInt value ++ " is out of range [".toList ++ Text.ofInt lowest ++
      ", ".toList ++ Text.ofInt highest ++ "]".toList
  | missingRegister field => "missing register for field ".toList ++ field.inApostrophes
  | missingShiftAmount => "missing shift amount".toList
  | missingFunct => "R-type definition has no funct code".toList
  | missingValue => "missing immediate value or label".toList
  | unresolvedLabel label => "cannot resolve symbolic label ".toList ++ label.inApostrophes
  | negativeAddress address =>
    "jump address ".toList ++ Text.ofInt address ++ " is negative".toList
  | misalignedAddress address =>
    "jump address ".toList ++ Text.ofAddress address ++ " is not a multiple of 4".toList
  | wrongFieldWidth width length =>
    "encoded field has ".toList ++ Text.ofNat length ++ " bits, expected ".toList ++
      Text.ofNat width
  | wrongWordLength length =>
    "assembled instruction has ".toList ++ Text.ofNat length ++ " bits, expected 32".toList
  | notBinary => "input to hex conversion is not a 32-bit binary string".toList

def help : EncodingError → Option Text
  | outOfRange .. =>
    some "use a smaller value, or split the constant across several instructions".toList
  | unresolvedLabel _ =>
    some "labels cannot be resolved for a single instruction; use a numeric offset or address".toList
  | negativeAddress _ => some "jump targets are unsigned addresses".toList
  | misalignedAddress _ =>
    some "instructions are word-aligned, so the address must be divisible by 4".toList
  | _ => none

end EncodingError

namespace Failure

def message : Failure → Text
  | line cause => cause.message
  | operand cause => cause.message
  | encoding cause => cause.message

def help : Failure → Option Text
  | line cause => cause.help
  | operand cause => cause.help
  | encoding cause => cause.help

end Failure

end MipsEncoding
