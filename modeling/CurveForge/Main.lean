import CurveForge.CommandLine

/-!
# The program

The command on the real file system. Diagnostics go to the error stream.
-/

namespace CurveForge

def errorCode? : IO.Error → Option UInt32
  | .alreadyExists _ code _ => some code
  | .noFileOrDirectory _ code _ => some code
  | .invalidArgument _ code _ => some code
  | .resourceExhausted _ code _ => some code
  | .inappropriateType _ code _ => some code
  | .otherError code _ => some code
  | _ => none

def StorageFailure.ofError (e : IO.Error) : StorageFailure :=
  ((errorCode? e).bind fun code => ofCode? code.toNat).getD (.other (toString e))

def attemptAction (action : IO Unit) : IO (Except StorageFailure Unit) := do
  try
    action
    return .ok ()
  catch e => return .error (.ofError e)

/-- Writes a file, and notices a device that takes only part of the text. -/
def writeWhole (path text : String) : IO Unit :=
  IO.FS.withFile path .write fun file => do
    file.putStr text
    file.flush

/--
Whether a path leads to a directory. Only then is there something at the single
dot inside it, and never can such a thing be made.
-/
def isSystemDirectory (path : String) : IO Bool := do
  match ← attemptAction (IO.FS.createDir (joinPath path ".")) with
  | .error .alreadyExists => return true
  | _ => return false

def systemStorage : Storage IO where
  createDirectory path := attemptAction (IO.FS.createDir path)
  isDirectory := isSystemDirectory
  writeFile path text := attemptAction (writeWhole path text)
  writeBuffered path text := do
    let result ← attemptAction (writeWhole path text)
    return result.mapError fun reason =>
      if reason = .deviceFull then .ofStoring text reason else .outside reason

def helpText : String :=
  "Regenerate all spline segment types\n\n" ++
  "Usage: regenerate [OPTIONS]\n\n" ++
  "Options:\n" ++
  "      --out-dir <OUT_DIR>  Directory the generated sources are written to [default: " ++
    CommandLine.defaultOutDir ++ "]\n" ++
  "      --no-module-index    Do not write a mod.rs declaring the generated modules\n" ++
  "  -h, --help               Print help"

def CommandLine.Outcome.report : CommandLine.Outcome → IO Unit
  | .helped => IO.println helpText
  | .refused => IO.eprintln "error: unexpected argument or missing value"
  | .finished written outDir =>
      IO.eprintln ("regenerated " ++ toString written ++ " files in " ++ outDir)
  | .failed reason => IO.eprintln reason.message
  | .faulted fault => IO.eprintln fault.message

end CurveForge

def main (arguments : List String) : IO UInt32 := do
  let request := CurveForge.CommandLine.Request.ofArguments arguments
  let outcome ← request.execute CurveForge.systemStorage
  outcome.report
  return outcome.exitCode.toUInt32
