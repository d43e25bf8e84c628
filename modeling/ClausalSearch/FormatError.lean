import ClausalSearch.Fault
import ClausalSearch.Literal
import ClausalSearch.Text.Numeral

/-!
What is wrong with a text that should hold formulas, and how errors are reported: a message and
the chain of its causes, outermost first. A clause is quoted as the reader saw it.
-/
namespace ClausalSearch

structure Diagnostic where
  message : String
  causes : List String := []
  deriving DecidableEq, Repr

def Diagnostic.wrap (message : String) (cause : Diagnostic) : Diagnostic :=
  ⟨message, cause.message :: cause.causes⟩

def Diagnostic.render (d : Diagnostic) : String :=
  let listed := d.causes.zipIdx.map fun (cause, i) => s!"  {i}: {cause}\n"
  d.message ++ "\n" ++ if d.causes.isEmpty then "" else "\nCaused by:\n" ++ String.join listed

inductive FormatError where
  | malformedLiteral (line : Nat) (clause : String) (cause : LiteralError)
  | contradictoryLiteral (clause name : String)
  | emptyFormula
  | malformedProblemLine
  | malformedClause (clause : String)
  | malformedVariable (clause : String) (cause : Text.NumeralError)
  | variableOutOfRange (clause : String) (num max : Nat)
  | clauseCountMismatch (expected found : Nat)
  | fault (cause : Fault)
  deriving DecidableEq, Repr

def FormatError.message : FormatError → String
  | .malformedLiteral line clause _ => s!"Invalid literal found on line {line}: '{clause}'"
  | .contradictoryLiteral clause name =>
    s!"Variable '{name}' appears with both polarities in clause '{clause}'"
  | .emptyFormula => "Input does not contain any clause"
  | .malformedProblemLine =>
    "Problem line 'p cnf <num_variables> <num_clauses>' is not found"
  | .malformedClause clause => s!"Failed to parse line '{clause}' as clause"
  | .malformedVariable clause _ => s!"Invalid variable found in clause '{clause}'"
  | .variableOutOfRange clause num max =>
    s!"Variable {num} in clause '{clause}' is out of range (must be within 1 to {max})"
  | .clauseCountMismatch expected found =>
    s!"The number of clauses ({found}) does not match the clauses number in " ++
      s!"the problem definition ({expected})"
  | .fault cause => cause.message

def FormatError.causes : FormatError → List String
  | .malformedLiteral _ _ cause => [cause.message]
  | .malformedVariable _ cause => [cause.message]
  | _ => []

def FormatError.diagnostic (e : FormatError) : Diagnostic := ⟨e.message, e.causes⟩

end ClausalSearch
