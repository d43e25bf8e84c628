import ClausalSearch.Assignment

/-!
Clauses: disjunctions in which no variable appears twice, and their truth under a partial
assignment. Every evaluation stops at the first literal or clause that settles it, so variables
behind that point are not looked up.
-/
namespace ClausalSearch

structure Clause where
  literals : List Literal
  distinct : (literals.map Literal.var).Nodup
  deriving DecidableEq, Repr

def Clause.ofLiterals (literals : List Literal) :
    Except Fault { c : Clause // c.literals = literals } :=
  if distinct : (literals.map Literal.var).Nodup then .ok ⟨⟨literals, distinct⟩, rfl⟩
  else .error .repeatedVariable

def Clause.polarity? (c : Clause) (v : Nat) : Option Bool :=
  (c.literals.find? (·.var == v)).map Literal.positive

inductive Status where
  | satisfied
  | falsified
  | unit (l : Literal)
  | unresolved
  deriving DecidableEq, Repr

/-- The literals without a value, unless one of the list is true. -/
def openLiterals (a : Assignment) : List Literal → Except Fault (Option (List Literal))
  | [] => return some []
  | l :: rest => do
    match ← a.literalValue l with
    | some true => return none
    | some false => openLiterals a rest
    | none => return (← openLiterals a rest).map (l :: ·)

def Clause.status (c : Clause) (a : Assignment) : Except Fault Status := do
  match ← openLiterals a c.literals with
  | none => return .satisfied
  | some [] => return .falsified
  | some [l] => return .unit l
  | some _ => return .unresolved

def Clause.isSatisfied (c : Clause) (a : Assignment) : Except Fault Bool :=
  c.literals.anyM fun l => return (← a.literalValue l) == some true

def allSatisfied (clauses : List Clause) (a : Assignment) : Except Fault Bool :=
  clauses.allM (·.isSatisfied a)

def someFalsified (clauses : List Clause) (a : Assignment) : Except Fault Bool :=
  clauses.anyM fun c => return (← c.status a) == .falsified

end ClausalSearch
