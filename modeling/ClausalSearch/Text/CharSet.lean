import ClausalSearch.Text.Lines
import ClausalSearch.Text.Numeral

/-!
Sets of characters, as ranges of code points that include both their ends, and tables of code
points written as text: ranges in hexadecimal digits, and tags that go through all code points in
order.
-/
namespace ClausalSearch

structure CharSet where
  ranges : List (Nat × Nat)
  deriving DecidableEq, Repr

namespace CharSet

def maxCode : Nat := 0x10FFFF

def has (s : CharSet) (c : Char) : Bool :=
  s.ranges.any fun r => r.1 ≤ c.toNat && c.toNat ≤ r.2

def empty : CharSet := ⟨[]⟩

def range (first last : Nat) : CharSet := ⟨[(first, last)]⟩

def single (c : Char) : CharSet := range c.toNat c.toNat

def full : CharSet := range 0 maxCode

def appendRange (before : List (Nat × Nat)) (r : Nat × Nat) : List (Nat × Nat) :=
  match before with
  | last :: rest => if r.1 ≤ last.2 + 1 then (last.1, max last.2 r.2) :: rest else r :: before
  | [] => [r]

def ofRanges (ranges : List (Nat × Nat)) : CharSet :=
  ⟨((ranges.mergeSort fun r t => r.1 ≤ t.1).foldl appendRange []).reverse⟩

def unions (sets : List CharSet) : CharSet := ofRanges (sets.flatMap (·.ranges))

def union (s t : CharSet) : CharSet := unions [s, t]

/-- What ranges in order leave out from `next` on. -/
def gaps (next : Nat) : List (Nat × Nat) → List (Nat × Nat)
  | [] => if next ≤ maxCode then [(next, maxCode)] else []
  | r :: rest => if next < r.1 then (next, r.1 - 1) :: gaps (r.2 + 1) rest else gaps (r.2 + 1) rest

def compl (s : CharSet) : CharSet := ⟨gaps 0 (ofRanges s.ranges).ranges⟩

def inter (s t : CharSet) : CharSet := (s.compl.union t.compl).compl

def diff (s t : CharSet) : CharSet := s.inter t.compl

def symmDiff (s t : CharSet) : CharSet := (s.diff t).union (t.diff s)

def isAscii (s : CharSet) : Bool := s.ranges.all (·.2 ≤ 0x7F)

end CharSet

namespace Text

def words (text : String) : List (List Char) := tokens text.toList

def codes (table : String) : CharSet :=
  .ofRanges ((words table).map fun entry =>
    match (entry.splitOn '-').map (positional 16) with
    | [first, last] => (first, last)
    | single => (single.headD 0, single.headD 0))

structure CodeRun where
  tag : String
  first : Nat
  last : Nat
  deriving DecidableEq, Repr

/-- The runs of a table such as `Cc32 Zs1 Po3`, where each tag stands before a number of code
points. -/
def runs (table : String) : List CodeRun :=
  let addRun := fun ((next, runs) : Nat × List CodeRun) (entry : List Char) =>
    let size := positional 10 (entry.dropWhile Char.isAlpha)
    (next + size, ⟨String.ofList (entry.takeWhile Char.isAlpha), next, next + size - 1⟩ :: runs)
  ((words table).foldl addRun (0, [])).2.reverse

def tagged (tags : List String) (runs : List CodeRun) : CharSet :=
  .ofRanges ((runs.filter fun r => tags.contains r.tag).map fun r => (r.first, r.last))

end Text

end ClausalSearch
