import ClausalSearch.Formula
import ClausalSearch.Search.Choice

/-!
The state of a search: the pool of unbound variables, the assignment, counters and a log of the
bindings made, newest first. Binding takes a variable out of the pool, and giving it back puts it
where it was. The counters and the log only grow.
-/
namespace ClausalSearch

structure Stats where
  pureLiterals : Nat := 0
  unitPropagations : Nat := 0
  decisions : Nat := 0
  backtracks : Nat := 0
  deriving DecidableEq, Repr

def Stats.count (stats : Stats) : Reason → Stats
  | .pureLiteral => { stats with pureLiterals := stats.pureLiterals + 1 }
  | .unitClause => { stats with unitPropagations := stats.unitPropagations + 1 }
  | .decision => { stats with decisions := stats.decisions + 1 }

def Stats.text (stats : Stats) : String :=
  s!"SearchStats \x7b pure_literals: {stats.pureLiterals}, " ++
    s!"unit_propagations: {stats.unitPropagations}, decisions: {stats.decisions}, " ++
    s!"backtracks: {stats.backtracks} \x7d"

inductive Step where
  | chosen (reason : Reason)
  | flipped
  deriving DecidableEq, Repr

def Step.text : Step → String
  | .chosen .pureLiteral => "Pure"
  | .chosen .unitClause => "Unit"
  | .chosen .decision => "Decision"
  | .flipped => "Flip"

/-- A binding made by the search, above the literals that were bound before it, newest first. -/
structure Event where
  step : Step
  literal : Literal
  below : List Literal
  deriving DecidableEq, Repr

def Event.depth (e : Event) : Nat := e.below.length + 1

def Event.trail (e : Event) : List Literal := (e.literal :: e.below).reverse

def Event.text (F : Formula) (e : Event) : String :=
  s!"{e.step.text} {(F.named e.literal).text} at depth {e.depth}"

structure State where
  pool : List Nat
  assignment : Assignment
  stats : Stats := {}
  log : List Event := []
  deriving DecidableEq, Repr

namespace State

def initial (F : Formula) : State :=
  { pool := List.range F.numVariables, assignment := .empty F.numVariables }

/-- Moves the chosen variable from the pool into the assignment and returns its old position. The
reason is counted along with the binding: nothing is searched between the two, so the states on
which the search is called are the same whichever comes first. -/
def take (s : State) (reason : Reason) (l : Literal) : Except Fault (Nat × State) := do
  match s.pool.idxOf? l.var with
  | none => throw .notPooled
  | some position =>
    let assignment ← s.assignment.bind l
    return (position, {
      pool := s.pool.eraseIdx position
      assignment
      stats := s.stats.count reason
      log := ⟨.chosen reason, l, s.assignment.bound⟩ :: s.log })

def flip (s : State) (l : Literal) : Except Fault State := do
  match s.assignment.unbind with
  | none => throw .nothingBound
  | some (_, rest) =>
    let assignment ← rest.bind l.negate
    return { s with assignment, log := ⟨.flipped, l.negate, rest.bound⟩ :: s.log }

/-- Takes back the newest binding, puts its variable into the pool at `position` and counts the
backtrack; the search returns right after both. -/
def giveBack (s : State) (position : Nat) : Except Fault State := do
  match s.assignment.unbind with
  | none => throw .nothingBound
  | some (l, rest) =>
    if s.pool.length < position then throw (.misplaced s.pool.length position)
    return { s with
      pool := s.pool.insertIdx position l.var
      assignment := rest
      stats := { s.stats with backtracks := s.stats.backtracks + 1 } }

end State

end ClausalSearch
