import MipsEncoding.Failure
import MipsEncoding.Text.Lowercase

/-! An instruction as written on a line: its mnemonic and the text of its operands. A `#` starts a
comment. Blanks around the parts and the case of the mnemonic do not matter. -/
namespace MipsEncoding

structure Instruction where
  mnemonic : Text
  /-- The operands as written, without blanks around them, if there are any. -/
  operands : Option Text
  deriving DecidableEq, Repr

namespace Instruction

def code (line : Text) : Text := Text.trim (Text.before '#' line)

/-- The operand text after the first blank; only blanks are no operands. -/
def operandText (rest : Text) : Option Text :=
  let operands := Text.trim rest
  if operands.isEmpty then none else some operands

def ofLine (line : Text) : Except LineError Instruction :=
  if (code line).isEmpty then .error .empty
  else
    let (word, rest) := Text.splitAtBlank (code line)
    .ok ⟨Text.lowercase word, rest.bind operandText⟩

end Instruction

/-! The supported instructions. Each mnemonic has one definition, which fixes its format, its codes
and the template of its operands. -/

inductive Format
  | register
  | immediate
  | jump
  deriving DecidableEq, Repr

def Format.letter : Format → Text
  | register => "R".toList
  | immediate => "I".toList
  | jump => "J".toList

/-- The definition of an instruction. The codes are written in binary. -/
structure Definition where
  mnemonic : Text
  format : Format
  opcode : Text
  /-- The function code, which only the register format has. -/
  funct : Option Text := none
  template : Text
  description : Text
  /-- Whether the field `rs` is always zero, as it is for shifts by a fixed amount. -/
  zeroesRs : Bool := false
  /-- Whether the 16-bit field comes from a label, as it does for conditional branches. -/
  branches : Bool := false
  deriving DecidableEq, Repr

namespace Catalog

def threeRegisters (mnemonic funct description : String) : Definition where
  mnemonic := mnemonic.toList
  format := .register
  opcode := "000000".toList
  funct := some funct.toList
  template := "rd, rs, rt".toList
  description := description.toList

def shift (mnemonic funct description : String) : Definition where
  mnemonic := mnemonic.toList
  format := .register
  opcode := "000000".toList
  funct := some funct.toList
  template := "rd, rt, shamt".toList
  description := description.toList
  zeroesRs := true

def withImmediate (mnemonic opcode description : String) : Definition where
  mnemonic := mnemonic.toList
  format := .immediate
  opcode := opcode.toList
  template := "rt, rs, immediate".toList
  description := description.toList

def memoryAccess (mnemonic opcode description : String) : Definition where
  mnemonic := mnemonic.toList
  format := .immediate
  opcode := opcode.toList
  template := "rt, offset(rs)".toList
  description := description.toList

def branch (mnemonic opcode description : String) : Definition where
  mnemonic := mnemonic.toList
  format := .immediate
  opcode := opcode.toList
  template := "rs, rt, label".toList
  description := description.toList
  branches := true

def jump (mnemonic opcode description : String) : Definition where
  mnemonic := mnemonic.toList
  format := .jump
  opcode := opcode.toList
  template := "target_address".toList
  description := description.toList

/-- All definitions, in the order in which they are listed to a reader. -/
def definitions : List Definition :=
  [threeRegisters "add" "100000"
      "Adds the signed contents of 'rs' and 'rt' and stores the result in 'rd'. Traps on overflow.",
    threeRegisters "sub" "100010"
      "Subtracts the signed contents of 'rt' from 'rs' and stores the result in 'rd'. Traps on overflow.",
    threeRegisters "and" "100100"
      "Computes the bitwise AND of 'rs' and 'rt' and stores the result in 'rd'.",
    threeRegisters "or" "100101"
      "Computes the bitwise OR of 'rs' and 'rt' and stores the result in 'rd'.",
    threeRegisters "nor" "100111"
      "Computes the bitwise NOR of 'rs' and 'rt' and stores the result in 'rd'.",
    threeRegisters "slt" "101010"
      "Sets 'rd' to 1 if 'rs' is less than 'rt' (signed), and to 0 otherwise.",
    shift "sll" "000000"
      "Shifts 'rt' left by 'shamt' bits, filling with zeros, and stores the result in 'rd'. The machine 'rs' field is zero.",
    shift "srl" "000010"
      "Shifts 'rt' right by 'shamt' bits, filling with zeros, and stores the result in 'rd'. The machine 'rs' field is zero.",
    shift "sra" "000011"
      "Shifts 'rt' right by 'shamt' bits, filling with the sign bit, and stores the result in 'rd'. The machine 'rs' field is zero.",
    withImmediate "addi" "001000"
      "Adds 'rs' and the sign-extended 16-bit immediate and stores the result in 'rt'. Traps on overflow.",
    withImmediate "slti" "001010"
      "Sets 'rt' to 1 if 'rs' is less than the sign-extended 16-bit immediate (signed), and to 0 otherwise.",
    memoryAccess "lw" "100011"
      "Loads a word from memory into 'rt'. Address = 'rs' + sign-extended 16-bit offset.",
    memoryAccess "sw" "101011"
      "Stores the word in 'rt' into memory. Address = 'rs' + sign-extended 16-bit offset.",
    branch "beq" "000100"
      "If 'rs' == 'rt', branches to PC + 4 + (offset << 2). The offset is signed.",
    branch "bne" "000101"
      "If 'rs' != 'rt', branches to PC + 4 + (offset << 2). The offset is signed.",
    jump "j" "000010"
      "Jumps unconditionally to 'target_address'. The upper 4 bits of the new PC are taken from the current PC.",
    jump "jal" "000011"
      "Stores the return address in $ra and jumps to 'target_address'. The upper 4 bits of the new PC are taken from the current PC."]

/-- The definition of a mnemonic, which must be written exactly as in the catalog. -/
def find (mnemonic : Text) : Except OperandError Definition :=
  match definitions.find? (·.mnemonic == mnemonic) with
  | some definition => .ok definition
  | none => .error (.unknownMnemonic mnemonic)

end Catalog

end MipsEncoding
