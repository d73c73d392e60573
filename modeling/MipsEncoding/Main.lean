import MipsEncoding.CommandLine

/-! The program: reads its arguments, answers them and exits. -/
namespace MipsEncoding

partial def readAll (stream : IO.FS.Stream) (bytes : ByteArray) : IO ByteArray := do
  let chunk ← stream.read 65536
  if chunk.isEmpty then return bytes else readAll stream (bytes ++ chunk)

end MipsEncoding

open MipsEncoding in
/-- Answers the arguments; the standard input is read only if they hold no instruction. -/
def main (arguments : List String) : IO UInt32 := do
  match CommandLine.conventional (arguments.map String.toList) with
  | .error .help =>
    IO.println "usage: mips-encoding [--hex] [-j N] [INSTRUCTION]..."
    return CommandLine.EarlyEnd.help.exitCode.toUInt32
  | .error .version =>
    IO.println "mips-encoding"
    return CommandLine.EarlyEnd.version.exitCode.toUInt32
  | .error .misuse =>
    (← IO.getStderr).putStrLn "usage: mips-encoding [--hex] [-j N] [INSTRUCTION]..."
    return CommandLine.EarlyEnd.misuse.exitCode.toUInt32
  | .ok request =>
    let bytes ← if request.instructions.isEmpty then readAll (← IO.getStdin) ByteArray.empty
      else pure ByteArray.empty
    let transcript := CommandLine.answer request (CommandLine.decodeInput bytes)
    (← IO.getStdout).putStr (String.ofList transcript.output)
    (← IO.getStderr).putStr (String.ofList transcript.errors)
    return transcript.exitCode.toUInt32
