import Nomenclator.CommandLine.Arguments
import Nomenclator.CommandLine.Execution

/-!
# The program

Reads the arguments and the files that they name, draws random ids, and prints what the command comes
to.
-/

namespace Nomenclator

/-- The number that the system has for a failure, which some of its parts negate. -/
def systemNumber : IO.Error → Nat
  | .noFileOrDirectory _ code _ | .permissionDenied _ code _ | .inappropriateType _ code _
  | .invalidArgument _ code _ | .otherError code _ => code.toInt32.toInt.natAbs
  | _ => 0

/-- Read a file as a text. -/
def readFile (path : Text) : IO (Except FileFault Text) := do
  if path.contains '\x00' then return .error .nulInName
  try
    let bytes ← IO.FS.readBinFile (String.ofList path)
    match String.fromUTF8? bytes with
    | some s => return .ok s.toList
    | none => return .error .notUtf8
  catch e =>
    match FileFault.ofNumber? (systemNumber e) with
    | some fault => return .error fault
    | none => return .error (.other (toString e).toList)

/-- A random id. -/
def randomUuid : IO Uuid := do
  let bytes ← IO.getRandomBytes 16
  return Uuid.ofRandom (bytes.toList.foldl (fun n b => 256 * n + b.toNat) 0)

/-- Read the files of a command, each with its path. -/
def readFiles (c : Command) : IO (List (Text × Except FileFault Text)) :=
  c.paths.mapM fun path => do return (path, ← readFile path)

/-- As many ids as a configuration of this text can need: two for each of its lines. -/
def drawIds (files : List (Text × Except FileFault Text)) : IO (List Uuid) := do
  let lineCount := files.foldl (fun count file =>
    match file.2 with
    | .ok t => count + (Text.lines t).length
    | .error _ => count) 0
  (List.replicate (2 * lineCount) ()).mapM fun _ => randomUuid

end Nomenclator

open Nomenclator in
/-- Run the program. -/
def main (arguments : List String) : IO UInt32 := do
  match Command.ofArguments (arguments.map String.toList) with
  | .error e =>
    let message := String.ofList e.message
    if e.exitCode = 0 then IO.println message else IO.eprintln message
    return e.exitCode.toUInt32
  | .ok command =>
    let files ← readFiles command
    let ids ← drawIds files
    let lookup (path : Text) := (files.lookup path).getD (.error .notFound)
    match command.run lookup fun n => ids.getD n (.ofNat n) with
    | .error failure =>
      IO.eprintln (String.ofList failure.message)
      return 1
    | .ok outcome =>
      IO.print (String.ofList outcome.output)
      return outcome.exitCode.toUInt32
