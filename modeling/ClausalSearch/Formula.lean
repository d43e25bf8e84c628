import ClausalSearch.Clause
import ClausalSearch.Formula.NameTable

/-!
Formulas: a table of names in code-point order and clauses over their ranks. `ofNamed` interns
clauses of named literals and keeps the order of clauses and of literals. A valuation gives every
variable a value, and a formula holds when each of its clauses has a true literal.
-/
namespace ClausalSearch

/-- The literal by name; a variable outside the table has the empty name. -/
def Literal.namedIn (names : Array String) (l : Literal) : NamedLiteral :=
  ⟨names.getD l.var "", l.positive⟩

structure Formula where
  names : Array String
  clauses : List Clause
  ordered : names.toList.Pairwise (· < ·)
  covered : ∀ c ∈ clauses, ∀ l ∈ c.literals, l.var < names.size
  deriving DecidableEq, Repr

namespace Formula

def numVariables (F : Formula) : Nat := F.names.size

def name (F : Formula) (v : Nat) : Except Fault String :=
  match F.names[v]? with
  | some name => .ok name
  | none => .error (.outOfRange F.numVariables v)

def rank? (F : Formula) (name : String) : Option Nat :=
  (NameTable.rank? F.names name).map Fin.val

def named (F : Formula) (l : Literal) : NamedLiteral := l.namedIn F.names

def namedClauses (F : Formula) : List (List NamedLiteral) :=
  F.clauses.map fun c => c.literals.map F.named

def text (F : Formula) : String :=
  let disjunction (clause : List NamedLiteral) :=
    "(" ++ " ∨ ".intercalate (clause.map (·.textWith "¬")) ++ ")"
  s!"CNF with {F.numVariables} variables (" ++
    " ∧ ".intercalate (F.namedClauses.map disjunction) ++ ")"

end Formula

section Interning

def NamedLiteral.intern (names : Array String) (l : NamedLiteral) :
    Except Fault { m : Literal // m.var < names.size } :=
  match NameTable.rank? names l.name with
  | some v => .ok ⟨⟨v, l.positive⟩, v.isLt⟩
  | none => .error .unknownName

def internClause (names : Array String) (clause : List NamedLiteral) :
    Except Fault { c : Clause // ∀ l ∈ c.literals, l.var < names.size } := do
  let literals ← clause.mapM (·.intern names)
  let ⟨c, same⟩ ← Clause.ofLiterals literals.unattach
  have covered : ∀ l ∈ c.literals, l.var < names.size := by
    intro l member
    rw [same] at member
    exact (List.mem_unattach.1 member).1
  return ⟨c, covered⟩

def Formula.ofNamed (clauses : List (List NamedLiteral)) : Except Fault Formula := do
  let names := (NameTable.collect (clauses.flatten.map NamedLiteral.name)).toArray
  let interned ← clauses.mapM (internClause names)
  return {
    names
    clauses := interned.unattach
    ordered := NameTable.collect_pairwise_lt _
    covered := fun _ member => (List.mem_unattach.1 member).1 }

end Interning

section Meaning

abbrev Valuation := Nat → Bool

def Literal.Holds (v : Valuation) (l : Literal) : Prop := v l.var = l.positive

def Clause.Holds (v : Valuation) (c : Clause) : Prop := ∃ l ∈ c.literals, l.Holds v

def AllHold (v : Valuation) (clauses : List Clause) : Prop := ∀ c ∈ clauses, c.Holds v

def Formula.Holds (v : Valuation) (F : Formula) : Prop := AllHold v F.clauses

def Formula.Satisfiable (F : Formula) : Prop := ∃ v, F.Holds v

def Valuation.Extends (v : Valuation) (a : Assignment) : Prop :=
  ∀ u b, a.values[u]? = some (some b) → v u = b

end Meaning

end ClausalSearch
