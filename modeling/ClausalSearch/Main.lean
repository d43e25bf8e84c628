import ClausalSearch.Command
import ClausalSearch.Journal.Filter

/-!
The program on real files. It reads the input, prints or stores the answer and reports failures.
-/
namespace ClausalSearch

def fileError : IO.Error → FileError
  | .noFileOrDirectory .. => .notFound
  | .inappropriateType _ 21 _ => .isDirectory
  | .inappropriateType _ 20 _ => .notDirectory
  | error => .other (toString error)

def readPath (path : String) : IO (Except FileError String) := do
  try return decodeText (← (← IO.FS.Handle.mk path .read).readBinToEnd)
  catch error => return .error (fileError error)

def writePath (path text : String) : IO (Except OutputError Unit) := do
  try
    IO.FS.writeFile path text
    return .ok ()
  catch error => return .error ⟨path, fileError error⟩

def fail (program : String) (e : CommandError) : IO UInt32 := do
  IO.eprint (e.text program)
  return 1

def perform (journal : Journal) (program : String) (command : Command) : IO UInt32 := do
  let input ← match command.input? with
    | some path => readPath path
    | none => pure (.ok "")
  match command.answer program fun _ => input with
  | .error e => fail program e
  | .ok answer =>
    IO.eprint (journal.render answer.records)
    match command.output? with
    | none => IO.print answer.text; return 0
    | some path =>
      match ← writePath path answer.text with
      | .error e => fail program (.output e)
      | .ok () => return 0

end ClausalSearch

def main (args : List String) : IO UInt32 := do
  let program := ClausalSearch.programName [(← IO.appPath).toString]
  let journal := (ClausalSearch.Filter.ofSetting (← IO.getEnv "RUST_LOG")).journal
  IO.eprint journal.opening
  match ClausalSearch.Command.ofArgs args with
  | .error e => ClausalSearch.fail program e
  | .ok command => ClausalSearch.perform journal program command
