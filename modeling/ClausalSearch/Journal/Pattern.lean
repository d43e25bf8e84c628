import ClausalSearch.Text.Property

/-!
Patterns that a message must contain: characters out of sets, edges between characters, groups,
alternatives and repetitions. A pattern takes the gaps where a match may begin to the gaps where
one may end.
-/
namespace ClausalSearch

structure Gap where
  before : Option Char
  after : Option Char
  deriving DecidableEq, Repr

inductive WordEdge where
  | boundary
  | inside
  | start
  | finish
  | startHalf
  | finishHalf
  deriving DecidableEq, Repr

/-- What a gap must be; lines end at line feeds, and with `returns` at carriage returns too. -/
inductive Edge where
  | textStart
  | textEnd
  | lineStart (returns : Bool)
  | lineEnd (returns : Bool)
  | word (ascii : Bool) (edge : WordEdge)
  deriving DecidableEq, Repr

def WordEdge.holds : WordEdge → Bool → Bool → Bool
  | .boundary, left, right => left != right
  | .inside, left, right => left == right
  | .start, left, right => !left && right
  | .finish, left, right => left && !right
  | .startHalf, left, _ => !left
  | .finishHalf, _, right => !right

def Edge.holds (gap : Gap) : Edge → Bool
  | .textStart => gap.before.isNone
  | .textEnd => gap.after.isNone
  | .lineStart returns =>
    gap.before.isNone || gap.before == some '\n' ||
      (returns && gap.before == some '\r' && gap.after != some '\n')
  | .lineEnd returns =>
    gap.after.isNone || (returns && gap.after == some '\r') ||
      (gap.after == some '\n' && !(returns && gap.before == some '\r'))
  | .word ascii edge =>
    let chars := if ascii then Text.asciiWordChars else Text.wordChars
    edge.holds (gap.before.any chars.has) (gap.after.any chars.has)

/-- A repetition without `most` has no upper bound. A group matches what it holds. -/
inductive Pattern where
  | blank
  | edge (e : Edge)
  | oneOf (s : CharSet)
  | seq (p q : Pattern)
  | alt (p q : Pattern)
  | repeated (p : Pattern) (least : Nat) (most : Option Nat)
  | group (p : Pattern)
  deriving DecidableEq, Repr

def gapAt (text : Array Char) (i : Nat) : Gap :=
  { before := if i = 0 then none else text[i - 1]?, after := text[i]? }

def mergePlaces (xs ys : List Nat) : List Nat := (xs.merge ys (· ≤ ·)).eraseReps

def mark (marks : Array Bool) (places : List Nat) : Array Bool :=
  places.foldl (fun marks i => marks.setIfInBounds i true) marks

def marked (marks : Array Bool) : List Nat :=
  (List.range marks.size).filter fun i => marks[i]?.getD false

def afterTurns (turn : List Nat → List Nat) : Nat → List Nat → List Nat
  | 0, places => places
  | _ + 1, [] => []
  | count + 1, places => afterTurns turn count (turn places)

def spread (turn : List Nat → List Nat) : Nat → List Nat → Array Bool → Array Bool
  | 0, _, marks => marks
  | count + 1, newest, marks =>
    match (turn newest).filter fun i => !(marks[i]?.getD true) with
    | [] => marks
    | fresh => spread turn count fresh (mark marks fresh)

namespace Pattern

/-- Where matches end that begin at one of some gaps, in ascending order. A turn of a repetition
never leads back, so as many turns as there are gaps lead wherever more of them lead. -/
def ends (text : Array Char) : Pattern → List Nat → List Nat
  | blank, starts => starts
  | edge e, starts => starts.filter fun i => e.holds (gapAt text i)
  | oneOf s, starts => (starts.filter fun i => text[i]?.any s.has).map (· + 1)
  | seq p q, starts => q.ends text (p.ends text starts)
  | alt p q, starts => mergePlaces (p.ends text starts) (q.ends text starts)
  | repeated p least most, starts =>
    let enough := text.size + 1
    let due := afterTurns (p.ends text) (min least enough) starts
    let more := min ((most.map (· - least)).getD enough) enough
    marked (spread (p.ends text) more due (mark (Array.replicate enough false) due))
  | group p, starts => p.ends text starts

def foundIn (p : Pattern) (text : List Char) : Bool :=
  !(p.ends text.toArray (List.range (text.length + 1))).isEmpty

end Pattern

end ClausalSearch
