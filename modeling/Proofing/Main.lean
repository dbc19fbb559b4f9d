import Proofing.Inspector.Command
/-
  Proofing — the command line.
-/
namespace Proofing

/-- The number of an error of the system, which may be given as a negative one. -/
def systemNumber (code : UInt32) : Nat :=
  min code.toNat (-code).toNat

/-- What stops a path, if that is why there is an error. -/
def pathFault? : IO.Error → Option Inspector.PathFault
  | .noFileOrDirectory .. => some .missing
  | .inappropriateType _ code _ =>
    match systemNumber code with
    | 20 => some .notFolder
    | 21 => some .folder
    | _ => none
  | .invalidArgument _ code _ => if systemNumber code = 36 then some .tooLong else none
  | _ => none

/-- The text of an error of the system. -/
def errorText (e : IO.Error) : String :=
  match pathFault? e, e with
  | some fault, _ => fault.message
  | none, .permissionDenied .. => "Permission denied (os error 13)"
  | none, .userError _ => "stream did not contain valid UTF-8"
  | none, e => toString e

/-- The outcome of an action, with the text of its failure. -/
def attempt {α : Type} (action : IO α) : IO (Except String α) := do
  try return .ok (← action)
  catch e => return .error (errorText e)

/-- The files of the machine. -/
def host : Inspector.Host IO where
  readFile path := attempt (IO.FS.readFile path)
  readInput := attempt do (← IO.getStdin).readToEnd
  writeFile path text := attempt (IO.FS.writeFile path text)

/-- The variables that the arguments may leave to the environment. -/
def environmentNames : List String := ["IDV_CONFIG", "IDV_LOG_LEVEL", "IDV_LOG_FORMAT"]

end Proofing

/-- Does what the arguments say. -/
def main (args : List String) : IO UInt32 := do
  let known ← Proofing.environmentNames.mapM fun name => return (name, ← IO.getEnv name)
  let report ← Proofing.Inspector.run Proofing.host (fun name => (known.lookup name).join) args
  IO.print report.output
  if let some text := report.trouble then IO.eprintln text
  return UInt32.ofNat report.code
