import MipsEncoding.Token

/-! Why a line is rejected. There is one type of causes for each stage that a line passes through;
`Failure` joins them. Internal causes speak of a fault in a definition or in the encoder, not in the
line. The wording of all causes stands in `MipsEncoding.Failure.Wording`. -/
namespace MipsEncoding

inductive Stage
  | tokenization
  | parsing
  | conversion
  deriving DecidableEq, Repr

def Stage.name : Stage → Text
  | tokenization => "tokenization".toList
  | parsing => "parsing".toList
  | conversion => "conversion".toList

inductive LineError
  | empty
  deriving DecidableEq, Repr

inductive OperandError
  | unknownMnemonic (mnemonic : Text)
  | wrongCount (template found : Text)
  | notARegister (piece : Text)
  | notAnImmediate (piece : Text)
  | shiftOutOfRange (piece : Text)
  | notAMemoryOperand (piece : Text)
  | notATarget (piece : Text)
  | unknownRole (name : Text)
  deriving DecidableEq, Repr

inductive EncodingError
  | outOfRange (value lowest highest : Int)
  | missingRegister (field : Text)
  | missingShiftAmount
  | missingFunct
  | missingValue
  | unresolvedLabel (label : Text)
  | negativeAddress (address : Int)
  | misalignedAddress (address : Int)
  | wrongFieldWidth (width length : Nat)
  | wrongWordLength (length : Nat)
  | notBinary
  deriving DecidableEq, Repr

def EncodingError.isInternal : EncodingError → Bool
  | wrongFieldWidth .. => true
  | wrongWordLength _ => true
  | notBinary => true
  | _ => false

/-- Why a line is rejected, by the stage that rejects it. -/
inductive Failure
  | line (cause : LineError)
  | operand (cause : OperandError)
  | encoding (cause : EncodingError)
  deriving DecidableEq, Repr

namespace Failure

def stage : Failure → Stage
  | line _ => .tokenization
  | operand _ => .parsing
  | encoding _ => .conversion

def isInternal : Failure → Bool
  | encoding cause => cause.isInternal
  | _ => false

end Failure

end MipsEncoding
