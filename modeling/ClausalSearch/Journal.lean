import ClausalSearch.Batch

/-!
The journal. A search records its bindings and then its counters, and a batch records its instances
around them. A record has a level, the part of the program that speaks, and a message; which
records are printed, and how, is left open.
-/
namespace ClausalSearch

inductive Level where
  | error
  | warn
  | info
  | debug
  | trace
  deriving DecidableEq, Repr

def Level.all : List Level := [.error, .warn, .info, .debug, .trace]

def Level.text : Level → String
  | .error => "ERROR"
  | .warn => "WARN"
  | .info => "INFO"
  | .debug => "DEBUG"
  | .trace => "TRACE"

def Level.verbosity : Level → Nat
  | .error => 1
  | .warn => 2
  | .info => 3
  | .debug => 4
  | .trace => 5

inductive Source where
  | batch
  | search
  deriving DecidableEq, Repr

def Source.text : Source → String
  | .batch => "dpll_sat::batch"
  | .search => "dpll_sat::solver::dpll"

structure Record where
  level : Level
  source : Source
  message : String
  deriving DecidableEq, Repr

def Run.records (F : Formula) (run : Run) : List Record :=
  let answer := if run.isSatisfiable then "SAT" else "UNSAT"
  run.events.map (fun e => ⟨.trace, .search, e.text F⟩) ++
    [⟨.debug, .search, s!"{answer} after {run.stats.text}"⟩]

def Solved.records (solved : Solved) (index : Nat) : List Record :=
  ⟨.debug, .batch, s!"Instance {index}: {solved.formula.text}"⟩ ::
    solved.run.records solved.formula ++
    if solved.run.isSatisfiable then []
    else [⟨.info, .batch, s!"Instance {index} is unsatisfiable"⟩]

def batchRecords (batch : List Solved) : List Record :=
  ⟨.info, .batch, s!"Solving {batch.length} instances"⟩ ::
    batch.zipIdx.flatMap fun (solved, index) => solved.records index

/-- What is printed of a journal: a text before everything else, and a text for the records. -/
structure Journal where
  opening : String
  render : List Record → String

end ClausalSearch
