import ClausalSearch.FormatError
import ClausalSearch.Formula
import ClausalSearch.Text.Lines

/-!
Clauses by name: one clause a line, its literals separated by blanks. Lines of blanks alone hold no
clause; in a batch they separate the instances. A literal is written with a single space before the
next one.
-/
namespace ClausalSearch.NamedFormat

def addLiteral (quoted : String) (clause : List NamedLiteral) (l : NamedLiteral) :
    Except FormatError (List NamedLiteral) :=
  match clause.find? (·.name == l.name) with
  | none => .ok (clause ++ [l])
  | some seen =>
    if seen.positive = l.positive then .ok clause
    else .error (.contradictoryLiteral quoted l.name)

def readClause (line : List Char) (number : Nat) : Except FormatError (List NamedLiteral) :=
  (Text.tokens line).foldlM (fun clause token =>
    match NamedLiteral.parse token with
    | .ok l => addLiteral (String.ofList line) clause l
    | .error cause => .error (.malformedLiteral number (String.ofList line) cause)) []

def isSeparator (line : List Char × Nat) : Bool := line.1.all Text.isBlank

def readClauses (lines : List (List Char × Nat)) : Except FormatError (List (List NamedLiteral)) :=
  lines.mapM fun (line, number) => readClause line number

def intern (clauses : List (List NamedLiteral)) : Except FormatError Formula :=
  (Formula.ofNamed clauses).mapError .fault

def readInstance (text : List Char) : Except FormatError Formula := do
  let clauses ← readClauses ((Text.numberedLines text).filter (!isSeparator ·))
  if clauses.isEmpty then throw .emptyFormula
  intern clauses

/-- What has been read of a batch: its formulas, and the clauses of the instance under way. -/
structure Reading where
  formulas : List Formula := []
  current : List (List NamedLiteral) := []

def Reading.close (r : Reading) : Except FormatError Reading := do
  if r.current.isEmpty then return r
  return { formulas := r.formulas ++ [← intern r.current] }

def Reading.readLine (r : Reading) (line : List Char × Nat) : Except FormatError Reading := do
  if isSeparator line then r.close
  else return { r with current := r.current ++ [← readClause line.1 line.2] }

def readBatch (text : List Char) : Except FormatError (List Formula) := do
  let r ← (Text.numberedLines text).foldlM Reading.readLine {}
  let r ← r.close
  if r.formulas.isEmpty then throw .emptyFormula
  return r.formulas

section Writing

def clauseText (clause : List NamedLiteral) : String :=
  " ".intercalate (clause.map NamedLiteral.text)

def instanceText (clauses : List (List NamedLiteral)) : String :=
  "\n".intercalate (clauses.map clauseText)

/-- The blanks stand between the line ends, so they may hold lines of their own. -/
def batchText (blanks : String) (instances : List (List (List NamedLiteral))) : String :=
  ("\n" ++ blanks ++ "\n").intercalate (instances.map instanceText)

end Writing

end ClausalSearch.NamedFormat
