import ClausalSearch.Model
import ClausalSearch.Search.State

/-!
Depth-first search. A call that finds a satisfying assignment leaves its bindings in place; a
call that finds none gives everything back. `solve` starts it from the empty assignment.
-/
namespace ClausalSearch

def verdict? (clauses : List Clause) (a : Assignment) : Except Fault (Option Bool) := do
  if ← allSatisfied clauses a then return some true
  if ← someFalsified clauses a then return some false
  return none

/-- Searches below a state with at most `left` variables to bind. -/
def search (F : Formula) (left : Nat) (s : State) : Except Fault (Bool × State) := do
  match ← verdict? F.clauses s.assignment with
  | some answer => return (answer, s)
  | none =>
    match left with
    | 0 => throw .tooDeep
    | left + 1 =>
      let some (reason, l) ← choose s.pool F.clauses s.assignment | throw .undecided
      let (position, s) ← s.take reason l
      let (found, s) ← search F left s
      let (found, s) ←
        if found ∨ reason ≠ .decision then pure (found, s) else search F left (← s.flip l)
      if found then return (true, s)
      return (false, ← s.giveBack position)

structure Run where
  model : Option Model
  stats : Stats
  events : List Event

def solve (F : Formula) : Except Fault Run := do
  let (found, s) ← search F F.numVariables (.initial F)
  let model ← if found then some <$> Model.ofAssignment F s.assignment else pure none
  return ⟨model, s.stats, s.log.reverse⟩

def Run.isSatisfiable (run : Run) : Bool := run.model.isSome

def Run.line (run : Run) : String := (run.model.map Model.text).getD ""

end ClausalSearch
