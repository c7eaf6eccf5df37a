import PageBlocks.Cli

/-!
The program: the command line on the files of this computer.
-/

open PageBlocks

/-- What the system calls a failure to read a file. -/
def readFailure : IO.Error → String
  | .noFileOrDirectory _ code reason => numbered reason code
  | .inappropriateType _ code reason => numbered reason code
  | .permissionDenied _ code reason => numbered reason code
  | .invalidArgument _ code reason => numbered reason code
  | e => toString e
where
  numbered (reason : String) (code : UInt32) : String :=
    reason ++ " (os error " ++ toString code ++ ")"

def readFile (path : String) : IO (Except String (List UInt8)) := do
  try
    return .ok (← IO.FS.readBinFile path).toList
  catch e =>
    return .error (readFailure e)

def main (args : List String) : IO UInt32 := do
  let entropy ← IO.rand 0 18446744073709551615
  let stdin := do return (← (← IO.getStdin).readBinToEnd).toList
  let outcome ← Cli.run ⟨readFile, stdin⟩ (UInt64.ofNat entropy) args
  IO.print outcome.stdout
  IO.eprint outcome.stderr
  return outcome.exitCode
