import LexKit.CommandLine.Run

/-!
# The program

Reads the arguments and the file, and prints what the run comes to.
-/

namespace LexKit.CommandLine

def faultOf : IO.Error → ReadFault
  | .noFileOrDirectory _ _ _ => .notFound
  | .inappropriateType _ _ _ => .isFolder
  | error => .other (toString error)

def readFile (path : String) : IO (Except ReadFault ByteArray) := do
  try
    return .ok (← IO.FS.readBinFile path)
  catch error => return .error (faultOf error)

def finish (exit : Exit) : IO UInt32 := do
  let output ← IO.getStdout
  output.write exit.output
  output.flush
  IO.eprint exit.errors
  return exit.code

end LexKit.CommandLine

open LexKit.CommandLine

def main (arguments : List String) : IO UInt32 := do
  let program := (← IO.appPath).toString
  match Options.ofCall (program :: arguments) with
  | .error rejection => finish rejection.exit
  | .ok options => finish (run options none (← readFile options.path)).exit
