/-!
Broken preconditions of the checked operations. Texts that are read and searches that start from
the empty assignment meet none of them; a caller who binds literals by hand may.
-/
namespace ClausalSearch

inductive Fault where
  | outOfRange (size index : Nat)
  | alreadyBound
  | repeatedVariable
  /-- A model is asked for from an assignment over another number of variables. -/
  | sizeMismatch (found expected : Nat)
  | unsatisfied
  | notPooled
  | misplaced (length position : Nat)
  | nothingBound
  /-- No variable is left to bind and no clause settles the formula. -/
  | undecided
  /-- A search goes deeper than it was allowed to. -/
  | tooDeep
  | unknownName
  deriving DecidableEq, Repr

def Fault.message : Fault → String
  | .outOfRange size index => s!"index {index} is outside a table of {size} entries"
  | .alreadyBound => "the variable is already bound"
  | .repeatedVariable => "a variable may appear only once in a clause"
  | .sizeMismatch found expected => s!"the assignment has {found} variables instead of {expected}"
  | .unsatisfied => "the assignment does not satisfy the formula"
  | .notPooled => "the chosen variable is not in the pool"
  | .misplaced length position => s!"place {position} is behind a pool of {length} variables"
  | .nothingBound => "there is no binding to undo"
  | .undecided => "every variable is bound and the formula is undetermined"
  | .tooDeep => "the search goes deeper than it was allowed to"
  | .unknownName => "the name was not interned"

end ClausalSearch
