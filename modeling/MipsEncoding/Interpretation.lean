import MipsEncoding.Assembly
import MipsEncoding.Operands.Reading

/-! Interpreting one line: the instruction on it is looked up, its operands are read and encoded, and
the word is written in hexadecimal. The first stage that fails decides the failure, and the last
record of the journal says how it ended. -/
namespace MipsEncoding

structure Interpretation where
  source : Text
  instruction : Instruction
  definition : Definition
  operands : Operands
  fields : Fields
  binary : Text
  hex : Text
  deriving DecidableEq, Repr

namespace Interpretation

def word? (i : Interpretation) : Option (BitVec 32) := Word.ofBinary? i.binary

def ofLine (line : Text) : Run Failure Interpretation := do
  let instruction ← (Run.ofExcept (Instruction.ofLine line)).mapError .line
  Run.note (.lineSplit line instruction)
  let definition ← (Run.ofExcept (Catalog.find instruction.mnemonic)).mapError .operand
  let operands ← (Operands.read instruction.operands definition.template).mapError .operand
  Run.note (.operandsRead operands)
  let assembly ← (Assembly.assemble definition operands).mapError .encoding
  let hex ← (Word.hexOfBinary assembly.binary).mapError .encoding
  pure ⟨line, instruction, definition, operands, assembly.fields, assembly.binary, hex⟩

def verdict (line : Text) : Except Failure Interpretation → Record
  | .ok i => .encoded line i.hex
  | .error failure => .rejected line failure

end Interpretation

def interpret (line : Text) : Run Failure Interpretation :=
  let run := Interpretation.ofLine line
  ⟨run.log ++ [Interpretation.verdict line run.outcome], run.outcome⟩

end MipsEncoding

/-! The report on an interpreted line: the line, the word in binary and hexadecimal, what the
instruction does, and a table of its fields. -/
namespace MipsEncoding.Report

def divider : Text := " | ".toList

def fieldHeading : Text := "FIELD".toList

def binaryHeading : Text := "BINARY".toList

def bitsHeading : Text := "BITS".toList

/-- The width of a column: room for its heading and for the size in bytes of every entry. -/
def columnWidth (heading : Text) (entries : List Text) : Nat :=
  entries.foldl (fun width t => max width t.byteSize) heading.byteSize

def row (nameWidth bitsWidth : Nat) (name bits count : Text) : Text :=
  Text.line (name.padRight nameWidth ++ divider ++ bits.padRight bitsWidth ++ divider ++
    count.padLeft bitsHeading.byteSize)

/-- The table of fields: a heading, then one row for each field with its size in bytes. -/
def table (fields : Fields) : Text :=
  let nameWidth := columnWidth fieldHeading (fields.entries.map (·.1))
  let bitsWidth := columnWidth binaryHeading (fields.entries.map (·.2))
  row nameWidth bitsWidth fieldHeading binaryHeading bitsHeading ++
    fields.entries.flatMap fun (name, bits) =>
      row nameWidth bitsWidth name bits (Text.ofNat bits.byteSize)

def summary (source : Text) (definition : Definition) (fields : Fields) (hex : Text) : Text :=
  Text.line source.trim ++
    Text.line ("MNEMONIC".toList ++ divider ++ definition.mnemonic ++ " (".toList ++
      definition.format.letter ++ "-type)".toList) ++
    Text.line ("BINARY  ".toList ++ divider ++ fields.grouped) ++
    Text.line ("HEX     ".toList ++ divider ++ hex) ++
    Text.line definition.description ++
    Text.line []

def render (source : Text) (definition : Definition) (fields : Fields) (hex : Text) : Text :=
  summary source definition fields hex ++ table fields

end MipsEncoding.Report

namespace MipsEncoding

def Interpretation.report (i : Interpretation) : Text :=
  Report.render i.source i.definition i.fields i.hex

end MipsEncoding
