import ClausalSearch.NamedFormat

/-!
Models: an assignment of a formula's size that satisfies it. Variables that do not matter may be
left without a value. The text lists the bound literals by name in binding order.
-/
namespace ClausalSearch

structure Model where
  formula : Formula
  assignment : Assignment
  sized : assignment.size = formula.numVariables
  satisfied : allSatisfied formula.clauses assignment = .ok true

namespace Model

def ofAssignment (F : Formula) (a : Assignment) : Except Fault Model :=
  if sized : a.size = F.numVariables then
    match satisfied : allSatisfied F.clauses a with
    | .ok true => .ok ⟨F, a, sized, satisfied⟩
    | .ok false => .error .unsatisfied
    | .error fault => .error fault
  else .error (.sizeMismatch a.size F.numVariables)

def value? (m : Model) (name : String) : Option Bool := do
  let v ← m.formula.rank? name
  (m.assignment.values[v]?).join

def trail (m : Model) : List Literal := m.assignment.trail

def text (m : Model) : String := NamedFormat.clauseText (m.trail.map m.formula.named)

end Model

end ClausalSearch
