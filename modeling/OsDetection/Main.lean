import OsDetection.CommandLine.Session

/-!
# The command line program

Reads files, standard input and the environment for a session and prints what the session leaves
behind.
-/

namespace OsDetection.CommandLine

/-- What the system's error means for a reader. -/
def fileFault : IO.Error → FileFault
  | .noFileOrDirectory .. => .missing
  | .inappropriateType _ code _ => if code = 21 then .directory else .notDirectory
  | error => .refused (toString error)

/-- The text of a file. -/
def fileText (path : String) : IO (Except FileFault String) := do
  try
    let bytes ← IO.FS.readBinFile path
    return decodeText bytes
  catch error =>
    return .error (fileFault error)

/-- Everything that a stream still holds. -/
partial def streamBytes (stream : IO.FS.Stream) (bytes : ByteArray) : IO ByteArray := do
  let more ← stream.read 65536
  if more.isEmpty then return bytes else streamBytes stream (bytes ++ more)

/-- The text of standard input. -/
def inputText : IO (Except FileFault String) := do
  try
    let bytes ← streamBytes (← IO.getStdin) .empty
    return decodeText bytes
  catch error =>
    return .error (fileFault error)

/-- Answers a command line and gives the exit code. -/
def runProgram (args : List String) : IO UInt32 := do
  let env : Environment := ⟨← IO.getEnv "OSMATCH_DB", ← IO.getEnv "RUST_LOG"⟩
  let outcome ← run ⟨fileText, inputText⟩ env args
  for notice in outcome.log do
    IO.eprint notice.entry
  IO.eprint outcome.report
  IO.print outcome.output
  return UInt32.ofNat outcome.exitCode

end OsDetection.CommandLine

def main (args : List String) : IO UInt32 := OsDetection.CommandLine.runProgram args
