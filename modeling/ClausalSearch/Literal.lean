/-!
Literals: over numbered variables, as the search handles them, and over names, as texts hold them.
The text of a negative named literal is a dash and the name, so a name that is read is not empty
and starts with no dash.
-/
namespace ClausalSearch

structure Literal where
  var : Nat
  positive : Bool
  deriving DecidableEq, Repr

def Literal.negate (l : Literal) : Literal := { l with positive := !l.positive }

@[simp] theorem Literal.var_negate (l : Literal) : l.negate.var = l.var := rfl

@[simp] theorem Literal.negate_negate (l : Literal) : l.negate.negate = l := by
  simp [negate]

theorem Literal.eq_or_eq_negate {k l : Literal} (same : k.var = l.var) :
    k = l ∨ k = l.negate := by
  obtain ⟨u, sign⟩ := k
  obtain ⟨w, other⟩ := l
  cases same
  cases sign <;> cases other <;> simp [negate]

structure NamedLiteral where
  name : String
  positive : Bool
  deriving DecidableEq, Repr

inductive LiteralError where
  | emptyName
  | invalidName (name : String)
  deriving DecidableEq, Repr

def LiteralError.message : LiteralError → String
  | .emptyName => "Literal has an empty variable name"
  | .invalidName name => s!"Variable name '{name}' must not start with '-'"

def NamedLiteral.ofName (positive : Bool) : List Char → Except LiteralError NamedLiteral
  | [] => .error .emptyName
  | '-' :: rest => .error (.invalidName (String.ofList ('-' :: rest)))
  | name => .ok ⟨String.ofList name, positive⟩

def NamedLiteral.parse : List Char → Except LiteralError NamedLiteral
  | '-' :: name => ofName false name
  | name => ofName true name

def NamedLiteral.textWith (negation : String) (l : NamedLiteral) : String :=
  if l.positive then l.name else negation ++ l.name

def NamedLiteral.text (l : NamedLiteral) : String := l.textWith "-"

end ClausalSearch
