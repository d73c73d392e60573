import MipsEncoding.Assembly
import MipsEncoding.Batch
import MipsEncoding.BitField
import MipsEncoding.CommandLine
import MipsEncoding.Failure
import MipsEncoding.Failure.Wording
import MipsEncoding.Instruction
import MipsEncoding.Interpretation
import MipsEncoding.Main
import MipsEncoding.Numeral
import MipsEncoding.Operands
import MipsEncoding.Operands.Reading
import MipsEncoding.Register
import MipsEncoding.Run
import MipsEncoding.Text
import MipsEncoding.Text.Lowercase
import MipsEncoding.Text.Quoted
import MipsEncoding.Text.WordCharacter
import MipsEncoding.Token
import MipsEncoding.Proofs.Denotation
import MipsEncoding.Proofs.Lexing
import MipsEncoding.Proofs.OperandPieces
import MipsEncoding.Proofs.OperandReading
import MipsEncoding.Proofs.Encoding
import MipsEncoding.Proofs.Stages
import MipsEncoding.Proofs.ReferenceWord
import MipsEncoding.Proofs.Faults
import MipsEncoding.Proofs.AcceptedLines
import MipsEncoding.Proofs.UniqueDecoding
import MipsEncoding.Proofs.Targets
import MipsEncoding.Proofs.Schedules
import MipsEncoding.Proofs.Layouts
import MipsEncoding.Proofs.BitFields
import MipsEncoding.Proofs.Hexadecimal
import MipsEncoding.Proofs.LongestMatch
import MipsEncoding.Proofs.Literals
import MipsEncoding.Proofs.TargetTexts
import MipsEncoding.Proofs.AnyDefinition
import MipsEncoding.Proofs.ImmediateBranch
import MipsEncoding.Proofs.OperandErrors
import MipsEncoding.Proofs.ShiftAmounts
import MipsEncoding.Proofs.Lowercasing
import MipsEncoding.Proofs.NormalForm
import MipsEncoding.Proofs.ReportTable
import MipsEncoding.Proofs.ArgumentReading
import MipsEncoding.Proofs.InputRoutes
import MipsEncoding.Proofs.PieceSpans
import MipsEncoding.Proofs.Mnemonics
import MipsEncoding.Proofs.JournalOrder
