import MipsEncoding.Batch

/-! The command line. Instructions are given as arguments or, if there are none, as lines on the
standard input. Results go to the standard output, failures to the standard error, both in the order
of the instructions. How arguments are read is up to a reader of arguments; the library comes with
one that follows the usual conventions. -/
namespace MipsEncoding.CommandLine

structure Request where
  hexOnly : Bool := false
  workers : Option Nat := none
  instructions : List Text := []
  deriving DecidableEq, Repr

/-- Why there is no request in the arguments: they are faulty, or ask for something else. -/
inductive EarlyEnd
  | misuse
  | help
  | version
  deriving DecidableEq, Repr

def EarlyEnd.exitCode : EarlyEnd → Nat
  | misuse => 2
  | help => 0
  | version => 0

abbrev ArgumentReader := List Text → Except EarlyEnd Request

structure Transcript where
  output : Text := []
  errors : Text := []
  failed : Bool := false
  deriving DecidableEq, Repr

namespace Transcript

def concat (ts : List Transcript) : Transcript :=
  ⟨ts.flatMap (·.output), ts.flatMap (·.errors), ts.any (·.failed)⟩

def exitCode (t : Transcript) : Nat := if t.failed then 1 else 0

end Transcript

def dropReturn (t : Text) : Text := if t.getLast? == some '\r' then t.dropLast else t

/-- The lines among the parts between line feeds. A line feed, with a carriage return before it,
ends a line; the last part has none after it and is a line unless it is empty. -/
def linesOfParts : List Text → List Text
  | [] => []
  | [last] => if last.isEmpty then [] else [last]
  | part :: rest => dropReturn part :: linesOfParts rest

def linesOf (t : Text) : List Text := linesOfParts (t.splitOn '\n')

/-- Whether a line holds an instruction: something besides blanks and a comment. -/
def holdsInstruction (line : Text) : Bool := (Instruction.ofLine line).isOk

def instructionLines (t : Text) : List Text := (linesOf t).filter holdsInstruction

def decodeInput (bytes : ByteArray) : Option Text := (String.fromUTF8? bytes).map String.toList

/-- The lines that a request is about, unless they should come from an input that is no text. The
input is looked at only if the request has no instructions. -/
def Request.lines? (r : Request) (input : Option Text) : Option (List Text) :=
  if r.instructions.isEmpty then input.map instructionLines else some r.instructions

def failureText (hexOnly : Bool) (line : Text) (failure : Failure) : Text :=
  Text.line line.trim ++
    Text.line ("error (".toList ++ failure.stage.name ++ " stage): ".toList ++ failure.message) ++
    (match failure.help with
      | some help => Text.line ("help: ".toList ++ help)
      | none => []) ++
    if hexOnly then [] else Text.line []

def respond (hexOnly : Bool) (line : Text) : Except Failure Interpretation → Transcript
  | .ok i => { output := Text.line (if hexOnly then i.hex else i.report) }
  | .error failure => { errors := failureText hexOnly line failure, failed := true }

/-- Answers lines by the results that they have, in their order. -/
def respondAll (hexOnly : Bool) (lines : List Text) (results : List (Except Failure Interpretation)) :
    Transcript :=
  Transcript.concat ((lines.zip results).map fun (line, result) => respond hexOnly line result)

def unreadableInput : Transcript where
  errors := Text.line "error: could not read stdin: stream did not contain valid UTF-8".toList
  failed := true

/-- The number of workers if none is asked for. Results do not depend on it. -/
def defaultWorkers : Nat := 1

def answer (r : Request) (input : Option Text) : Transcript :=
  match r.lines? input with
  | some lines =>
    respondAll r.hexOnly lines (Batch.interpretAll (r.workers.getD defaultWorkers) lines).results
  | none => unreadableInput

/-! Arguments by the usual conventions: options start with a dash, in any order among the
instructions, and `--` ends them. -/

/-- A number of workers: an optional plus sign, then decimal digits; positive and below `2 ^ 64`. -/
def readWorkers? (t : Text) : Option Nat :=
  let digits := Numeral.dropPlus t
  let count := Radix.decimal.valueOf digits
  if Radix.decimal.areDigits digits && 0 < count && count < 0x10000000000000000 then some count else none

namespace Request

def askHex (r : Request) : Except EarlyEnd Request :=
  if r.hexOnly then .error .misuse else .ok { r with hexOnly := true }

def askWorkers (r : Request) (count : Text) : Except EarlyEnd Request :=
  match r.workers, readWorkers? count with
  | none, some n => .ok { r with workers := some n }
  | _, _ => .error .misuse

def addInstructions (r : Request) (instructions : List Text) : Request :=
  { r with instructions := r.instructions ++ instructions }

end Request

/-- The ways to read an argument that stands before `--`. -/
inductive Argument
  | endOfOptions
  | hex
  | workers (count : Text)
  /-- The number of workers is the next argument. -/
  | workersNext
  /-- An option that is answered at once, whatever comes after it. -/
  | early (reason : EarlyEnd)
  | instruction (text : Text)
  deriving DecidableEq, Repr

def after? (start t : Text) : Option Text :=
  if start.isPrefixOf t then some (t.drop start.length) else none

/-- Whether an argument looks like an option. A dash alone does not. -/
def isOption (t : Text) : Bool := t.head? == some '-' && t != "-".toList

/-- The options that take no number of workers. One letter can be followed by others. -/
def Argument.ofPlainOption (t : Text) : Argument :=
  if t == "--help".toList || "-h".toList.isPrefixOf t then .early .help
  else if t == "--version".toList || "-V".toList.isPrefixOf t then .early .version
  else .early .misuse

/-- Reads one argument. The number of workers can follow `-j` and `--jobs` after an equals sign, and
`-j` also directly. -/
def Argument.ofText (t : Text) : Argument :=
  if t == "--".toList then .endOfOptions
  else if t == "--hex".toList then .hex
  else if t == "--jobs".toList || t == "-j".toList then .workersNext
  else match after? "--jobs=".toList t, after? "-j=".toList t, after? "-j".toList t with
    | some count, _, _ => .workers count
    | none, some count, _ => .workers count
    | none, none, some count => .workers count
    | none, none, none => if isOption t then ofPlainOption t else .instruction t

def readFrom (r : Request) : ArgumentReader
  | [] => .ok r
  | argument :: rest =>
    match Argument.ofText argument with
    | .endOfOptions => .ok (r.addInstructions rest)
    | .hex => r.askHex.bind (readFrom · rest)
    | .workers count => (r.askWorkers count).bind (readFrom · rest)
    | .workersNext =>
      match rest with
      | [] => .error .misuse
      | count :: rest =>
        if count.head? == some '-' then .error .misuse
        else (r.askWorkers count).bind (readFrom · rest)
    | .early reason => .error reason
    | .instruction text => readFrom (r.addInstructions [text]) rest

def conventional : ArgumentReader := readFrom {}

def Request.ofArguments? (arguments : List Text) : Option Request := (conventional arguments).toOption

end MipsEncoding.CommandLine
