import Bilingua.Command.Basic

/-!
# The program

The files that a command line names are read first; what follows is `Command.execute` on a host
that knows them. Reading and printing are all that happens in the outer world: no process is started,
and every interpreter is refused.
-/

namespace Bilingua.Program

/-- The files that carrying out a command line may read. -/
def inputs (args : List Bytes) : List Path :=
  match Command.parse args with
  | .error _ => []
  | .ok i =>
    i.config.getD Command.defaultSettingsFile ::
      match i.action with
      | .check files _ => files
      | .outline file _ => [file]
      | .run file => [file]
      | .indent _ _ _ => []
      | .keywords _ => []

def readErrorOf : IO.Error → ReadError
  | .inappropriateType none _ _ => .isDirectory
  | .inappropriateType (some _) _ _ => .notDirectory
  | _ => .notFound

def readText (path : Path) : IO (Except ReadError Text) := do
  try
    let bytes ← IO.FS.readBinFile (String.ofList path.display)
    match Utf8.text? bytes.toList with
    | some text => return .ok text
    | none => return .error .notUtf8
  catch e => return .error (readErrorOf e)

def hostOf (files : List (Path × Except ReadError Text)) : Host :=
  let read (path : Path) := (files.lookup path).getD (.error .notFound)
  { read
    isFile := fun path =>
      match read path with
      | .ok _ | .error .notUtf8 => true
      | .error _ => false
    launch := fun _ _ => .error .notExecutable }

end Bilingua.Program

open Bilingua in
def main (args : List String) : IO UInt32 := do
  let args := args.map fun arg => Text.utf8 arg.toList
  let files ← (Program.inputs args).mapM fun path => return (path, ← Program.readText path)
  let outcome := Command.execute (Program.hostOf files) args
  IO.print (String.ofList outcome.output)
  IO.eprint (String.ofList outcome.errors)
  return UInt32.ofNat outcome.code
