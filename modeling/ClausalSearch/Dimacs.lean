import ClausalSearch.NamedFormat

/-!
Reading the DIMACS CNF format. Variables are named by their numbers in decimal. Lines are trimmed;
what stands before the first line that starts with `p` is skipped, and so are later lines that
are empty or start with `c`.
-/
namespace ClausalSearch.Dimacs

structure Header where
  numVariables : Nat
  numClauses : Nat
  deriving DecidableEq, Repr

def readHeader (line : List Char) : Except FormatError Header :=
  match Text.tokens line with
  | [problem, format, first, second] =>
    if problem = ['p'] ∧ format = ['c', 'n', 'f'] then
      match Text.natural first, Text.natural second with
      | .ok n, .ok m => .ok ⟨n, m⟩
      | _, _ => .error .malformedProblemLine
    else .error .malformedProblemLine
  | _ => .error .malformedProblemLine

def readLiteral (quoted : String) (max : Nat) (token : List Char) :
    Except FormatError NamedLiteral := do
  let value ← (Text.integer token).mapError (.malformedVariable quoted)
  let num := value.natAbs
  if num = 0 ∨ max < num then throw (.variableOutOfRange quoted num max)
  return ⟨toString num, 0 < value⟩

/-- A clause line ends with the token `0`. -/
def readClause (max : Nat) (line : List Char) : Except FormatError (List NamedLiteral) := do
  let quoted := String.ofList line
  let tokens := Text.tokens line
  if tokens.getLast? ≠ some ['0'] then throw (.malformedClause quoted)
  tokens.dropLast.foldlM (fun clause token => do
    NamedFormat.addLiteral quoted clause (← readLiteral quoted max token)) []

def isSkipped (line : List Char) : Bool := line.isEmpty || line.head? == some 'c'

def read (text : List Char) : Except FormatError Formula := do
  match ((Text.lines text).map Text.trim).dropWhile (·.head? != some 'p') with
  | [] => throw .malformedProblemLine
  | problem :: body =>
    let header ← readHeader problem
    let clauses ← (body.filter (!isSkipped ·)).mapM (readClause header.numVariables)
    if clauses.length ≠ header.numClauses then
      throw (.clauseCountMismatch header.numClauses clauses.length)
    if clauses.isEmpty then throw .emptyFormula
    NamedFormat.intern clauses

end ClausalSearch.Dimacs
