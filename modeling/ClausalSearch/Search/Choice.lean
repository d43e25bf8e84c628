import ClausalSearch.Clause

/-!
Which literal to bind next: a pure one, then one that a clause forces, then the first variable
of the pool, positively. The pool lists the variables that are open to choice.
-/
namespace ClausalSearch

/-- The literal forced by the first unit clause; a clause of one literal forces it while unbound. -/
def findUnit (a : Assignment) : List Clause → Except Fault (Option Literal)
  | [] => return none
  | c :: rest => do
    match c.literals with
    | [l] => if ← a.isBound l.var then findUnit a rest else return some l
    | _ =>
      match ← c.status a with
      | .unit l => return some l
      | _ => findUnit a rest

def commonSign : List Bool → Option Bool
  | [] => none
  | sign :: rest => if rest.all (· == sign) then some sign else none

def findPure (pool : List Nat) (clauses : List Clause) (a : Assignment) :
    Except Fault (Option Literal) := do
  let unsatisfied ← clauses.filterM fun c => return !(← c.isSatisfied a)
  return pool.findSome? fun v =>
    (commonSign (unsatisfied.filterMap (·.polarity? v))).map (⟨v, ·⟩)

inductive Reason where
  | pureLiteral
  | unitClause
  | decision
  deriving DecidableEq, Repr

/-- There is a choice unless no clause forces one and the pool is empty. -/
def choose (pool : List Nat) (clauses : List Clause) (a : Assignment) :
    Except Fault (Option (Reason × Literal)) := do
  if let some l ← findPure pool clauses a then return some (.pureLiteral, l)
  if let some l ← findUnit a clauses then return some (.unitClause, l)
  return pool.head?.map fun v => (.decision, ⟨v, true⟩)

end ClausalSearch
