import MipsEncoding.BitField
import MipsEncoding.Token

/-! Encoding operands into an instruction word. Each format has its own fields; the word is their
bits in one row and must be 32 long. -/
namespace MipsEncoding

/-- An encoded instruction: its fields and their bits in one row. -/
structure Assembly where
  binary : Text
  fields : Fields
  deriving DecidableEq, Repr

namespace Assembly

def wordBits : Nat := 32

def registerBits (slot : Option Register) (field : Text) : Run EncodingError Text :=
  match slot with
  | none => Run.fail (.missingRegister field)
  | some r => BitField.encode r.number 5 .unsigned

/-- The integer a target denotes. Symbols denote none. A number too large for a token still counts,
cut off at the largest magnitude, so that the field it goes to can refuse it. -/
def resolveTarget (target : Text) : Except EncodingError Int :=
  match Literal.read target with
  | .ok (.number _ value) => .ok value
  | .ok (.symbol text) => .error (.unresolvedLabel text)
  | .error .numberTooLarge =>
    match Numeral.read? (Text.trim target) with
    | some n => .ok n.saturated
    | none => .error (.unresolvedLabel target)
  | .error _ => .error (.unresolvedLabel target)

/-- The fields of the register format once their bits are known. The definition must have a function
code. -/
def withFunct (d : Definition) (rs rt rd shamt : Text) : Except EncodingError Fields :=
  match d.funct with
  | none => .error .missingFunct
  | some funct =>
    .ok { opcode := d.opcode, rs := some rs, rt := some rt, rd := some rd, shamt := some shamt,
          funct := some funct }

def shiftAmount (ops : Operands) : Except EncodingError Nat :=
  match ops.shiftAmount with
  | none => .error .missingShiftAmount
  | some amount => .ok amount

def registerFields (d : Definition) (ops : Operands) : Run EncodingError Fields := do
  let rd ← registerBits ops.rd "rd".toList
  if d.zeroesRs then
    let amount ← Run.ofExcept (shiftAmount ops)
    let rt ← registerBits ops.rt "rt".toList
    let shamt ← BitField.encode amount 5 .unsigned
    Run.ofExcept (withFunct d (Bits.ofNat 5 0) rt rd shamt)
  else
    let rs ← registerBits ops.rs "rs".toList
    let rt ← registerBits ops.rt "rt".toList
    Run.ofExcept (withFunct d rs rt rd (Bits.ofNat 5 0))

/-- The integer for the 16-bit field: the target of a branch, else the immediate value. -/
def immediateValue (d : Definition) (ops : Operands) : Except EncodingError Int :=
  if d.branches then
    match ops.label with
    | some label => resolveTarget label
    | none => .error .missingValue
  else
    match ops.immediate with
    | some value => .ok value
    | none => .error .missingValue

def immediateFields (d : Definition) (ops : Operands) : Run EncodingError Fields := do
  let rs ← registerBits ops.rs "rs".toList
  let rt ← registerBits ops.rt "rt".toList
  let value ← Run.ofExcept (immediateValue d ops)
  let immediate ← BitField.encode value 16 .signed
  pure { opcode := d.opcode, rs := some rs, rt := some rt, immediate := some immediate }

/-- The address of a jump: its target if it has one, else its immediate value. -/
def jumpAddress (ops : Operands) : Except EncodingError Int :=
  match ops.label, ops.immediate with
  | some label, _ => resolveTarget label
  | none, some value => .ok value
  | none, none => .error .missingValue

/-- A jump address counts words, so it must be a multiple of four and not negative. -/
def wordAddress (address : Int) : Except EncodingError Int :=
  if address < 0 then .error (.negativeAddress address)
  else if address % 4 ≠ 0 then .error (.misalignedAddress address)
  else .ok (address / 4)

def jumpFields (d : Definition) (ops : Operands) : Run EncodingError Fields := do
  let address ← Run.ofExcept (jumpAddress ops)
  let words ← Run.ofExcept (wordAddress address)
  let bits ← BitField.encode words 26 .unsigned
  pure { opcode := d.opcode, address := some bits }

def fieldsOf (d : Definition) (ops : Operands) : Run EncodingError Fields :=
  match d.format with
  | .register => registerFields d ops
  | .immediate => immediateFields d ops
  | .jump => jumpFields d ops

/-- Puts the fields into one row, which must have the length of a word. -/
def ofFields (d : Definition) (fields : Fields) : Run EncodingError Assembly :=
  let binary := fields.concat
  if binary.byteSize = wordBits then pure ⟨binary, fields⟩
  else Run.failNoting (.lengthRefused d.mnemonic binary) (.wrongWordLength binary.byteSize)

def assemble (d : Definition) (ops : Operands) : Run EncodingError Assembly := do
  let fields ← fieldsOf d ops
  ofFields d fields

end Assembly

end MipsEncoding
