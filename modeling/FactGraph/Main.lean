import FactGraph.Command.Run

namespace FactGraph.Command

def errorNumber (code : UInt32) : Nat := code.toInt32.toInt.natAbs

def FileProblem.ofNumber (number : Nat) (text : String) : FileProblem :=
  ([notFound, accessDenied, notADirectory, isADirectory, nameTooLong].find?
    (·.code = number)).getD (.other number text)

def FileProblem.ofError (error : IO.Error) : FileProblem :=
  match error with
  | .noFileOrDirectory _ code text | .permissionDenied _ code text
  | .inappropriateType _ code text | .invalidArgument _ code text
  | .resourceExhausted _ code text => .ofNumber (errorNumber code) text
  | error => .ofNumber 5 (toString error)

def readFile (path : String) : IO (Except FileProblem (List UInt8)) := do
  match ← (IO.FS.readBinFile path).toBaseIO with
  | .ok bytes => pure (.ok bytes.toList)
  | .error error => pure (.error (.ofError error))

def Run.finish (run : Run) : IO UInt32 := do
  run.logged.forM fun line => IO.eprintln line
  run.printed.forM fun line => IO.println line
  match run.ending with
  | .exit code => pure (UInt32.ofNat code)
  | .broken cause => do
    IO.eprintln cause.message
    pure 1

end FactGraph.Command

def main (words : List String) : IO UInt32 := do
  (← FactGraph.Command.run .utf8 words FactGraph.Command.readFile).finish
