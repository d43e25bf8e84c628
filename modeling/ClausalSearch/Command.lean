import ClausalSearch.Journal

/-!
The command line. A command reads one file and answers with a text and records for the journal; the
text goes to the standard output or, if the command names one, to an output file. A failed command
prints nothing and changes no file.
-/
namespace ClausalSearch

inductive Command where
  | usage
  | solve (input : String) (output : Option String)
  | check (input : String)
  deriving DecidableEq, Repr

def usageText (program : String) : String :=
  "Usage: " ++ program ++ " <command>

command:
    solve <input> [output] - solve every instance of a batch file, one assignment per line
    check <file_name>      - solve a DIMACS CNF file and print SAT or UNSAT"

inductive CommandError where
  | unknownCommand (name : String)
  | missingArgument
  | input (cause : InputError)
  | output (cause : OutputError)
  | fault (cause : Fault)
  deriving DecidableEq, Repr

def CommandError.diagnostic (program : String) : CommandError → Diagnostic
  | .unknownCommand name =>
    { message := s!"Unknown command '{name}'\n\n" ++ usageText program }
  | .missingArgument =>
    { message := "Required argument does not exist\n\n" ++ usageText program }
  | .input cause => cause.diagnostic.wrap "Failed to parse input"
  | .output cause => cause.diagnostic.wrap "Failed to write results"
  | .fault cause => { message := cause.message }

def CommandError.text (program : String) (e : CommandError) : String :=
  s!"Error: {(e.diagnostic program).render}\n"

namespace Command

/-- Arguments beyond those that a command needs are ignored. -/
def ofArgs : List String → Except CommandError Command
  | [] => .ok .usage
  | ["solve"] | ["check"] => .error .missingArgument
  | "solve" :: input :: rest => .ok (.solve input rest.head?)
  | "check" :: input :: _ => .ok (.check input)
  | name :: _ => .error (.unknownCommand name)

def input? : Command → Option String
  | .usage => none
  | .solve input _ | .check input => some input

def output? : Command → Option String
  | .solve _ output => output
  | _ => none

/-- What a command computes before anything is written. -/
structure Answer where
  text : String
  records : List Record := []

def checkText (run : Run) : String :=
  if run.isSatisfiable then s!"SAT {run.line}\n" else "UNSAT\n"

def answer (program : String) (read : Reader) : Command → Except CommandError Answer
  | .usage => .ok { text := usageText program ++ "\n" }
  | .solve input _ => do
    let formulas ← (readBatchFile read input).mapError .input
    let batch ← (solveBatch formulas).mapError .fault
    return { text := outcomesText batch, records := batchRecords batch }
  | .check input => do
    let F ← (readDimacsFile read input).mapError .input
    let run ← (ClausalSearch.solve F).mapError .fault
    return { text := checkText run, records := run.records F }

end Command

structure Result where
  exit : Nat
  stdout : String
  stderr : String
  directory : Directory

def programName (args : List String) : String := args.head?.getD "dpll-sat"

def runProgram (journal : Journal) (args : List String) (d : Directory) : Result :=
  let program := programName args
  let failed (printed : String) (e : CommandError) : Result :=
    ⟨1, "", journal.opening ++ printed ++ e.text program, d⟩
  match Command.ofArgs args.tail with
  | .error e => failed "" e
  | .ok command =>
    match command.answer program d.readText with
    | .error e => failed "" e
    | .ok answer =>
      let printed := journal.render answer.records
      match command.output? with
      | none => ⟨0, answer.text, journal.opening ++ printed, d⟩
      | some path =>
        match writeFile d path answer.text with
        | .error e => failed printed (.output e)
        | .ok after => ⟨0, "", journal.opening ++ printed, after⟩

end ClausalSearch
