import ClausalSearch.Journal.Pattern

/-!
The memory that a pattern takes when it is laid out as an automaton over the bytes of UTF-8: states
of a fixed size, and branches out of them. Patterns are laid out forwards and backwards.
-/
namespace ClausalSearch

def stateMemory : Nat := 32

def branchMemory : Nat := 8

def choiceMemory : Nat := 4

/-- A state that reads one byte in the middle of a character: the range it comes from, counted
in values of the `height` bytes behind it and of its own, and its number of branches. -/
structure ByteState where
  height : Nat
  ranges : List (Nat × Nat)
  branches : Nat
  deriving DecidableEq, Repr

def continuations : Nat → Nat
  | 0 => 1
  | height + 1 => 64 * continuations height

/-- Splits a range into the values of its first byte and, for each, the range of the bytes behind;
first bytes behind which all is allowed stay together. -/
def splitRange (unit : Nat) (r : Nat × Nat) : List ((Nat × Nat) × (Nat × Nat)) :=
  let (first, low) := (r.1 / unit, r.1 % unit)
  let (last, high) := (r.2 / unit, r.2 % unit)
  if first = last then [((first, first), (low, high))]
  else
    let start := if low = 0 then first else first + 1
    let stop := if high = unit - 1 then last + 1 else last
    (if low = 0 then [] else [((first, first), (low, unit - 1))]) ++
      (if start < stop then [((start, stop - 1), (0, unit - 1))] else []) ++
      if high = unit - 1 then [] else [((last, last), (0, high))]

def byteStates : Nat → List (Nat × Nat) → List ByteState
  | 0, ranges => [⟨0, ranges, ranges.length⟩]
  | height + 1, ranges =>
    let pieces := ranges.flatMap (splitRange (continuations (height + 1)))
    let groups := pieces.splitBy fun p q => p.1 == q.1
    ⟨height + 1, ranges, groups.length⟩ ::
      groups.flatMap fun group => byteStates height (group.map (·.2))

def total (sizes : List Nat) : Nat := sizes.foldl (· + ·) 0

def encodedLengths : List CharSet :=
  [.range 0 0x7F, .range 0x80 0x7FF, .ofRanges [(0x800, 0xD7FF), (0xE000, 0xFFFF)],
   .range 0x10000 CharSet.maxCode]

namespace CharSet

def layout (s : CharSet) : List (List ByteState) :=
  encodedLengths.zipIdx.map fun (chars, height) => byteStates height (s.inter chars).ranges

def firstBranches (s : CharSet) : Nat :=
  total (s.layout.map fun states => (states.head?.map (·.branches)).getD 0)

/-- Forwards, states with the same bytes behind them are one. -/
def forwardMemory (s : CharSet) : Nat :=
  let shared := (s.layout.flatMap List.tail).eraseDups
  2 * stateMemory + branchMemory * s.firstBranches +
    total (shared.map fun state => stateMemory + branchMemory * state.branches)

def backwardMemory (s : CharSet) : Nat :=
  let states := s.layout.flatten
  let ends := total ((states.filter (·.height == 0)).map (·.branches))
  2 * stateMemory + choiceMemory * ends + stateMemory * total (states.map (·.branches))

def memory (backwards : Bool) (s : CharSet) : Nat :=
  match s.ranges with
  | [] => stateMemory
  | ranges =>
    if ranges.length = 1 ∧ ranges.all (fun r => r.1 == r.2) then
      stateMemory * total (ranges.map fun r => (Char.ofNat r.1).utf8Size)
    else if s.isAscii then 2 * stateMemory + branchMemory * ranges.length
    else if backwards then s.backwardMemory else s.forwardMemory

end CharSet

namespace Pattern

def isWeightless : Pattern → Bool
  | blank | edge _ => true
  | oneOf _ => false
  | seq p q | alt p q => p.isWeightless && q.isWeightless
  | repeated p _ most => p.isWeightless || most == some 0
  | group p => p.isWeightless

def takesSome : Pattern → Bool
  | blank | edge _ => false
  | oneOf s => !s.ranges.isEmpty
  | seq p q => p.takesSome || q.takesSome
  | alt p q => p.takesSome && q.takesSome
  | repeated p least _ => least != 0 && p.takesSome
  | group p => p.takesSome

def repeatedMemory (turn : Nat) (takesSome : Bool) (least : Nat) : Option Nat → Nat
  | some most =>
    let choice := stateMemory + 2 * choiceMemory
    if most = 0 then 0
    else if least = 1 ∧ most = 1 then turn
    else if least = most then least * turn
    else if least = 0 ∧ most = 1 then turn + choice + stateMemory
    else (if least = 0 then stateMemory else least * turn) + stateMemory +
      (most - least) * (turn + choice)
  | none =>
    let choice := stateMemory + 2 * choiceMemory
    if least = 0 then if takesSome then turn + choice else turn + 2 * choice + stateMemory
    else least * turn + choice

/-- The memory of a pattern; places that nothing need be read at are states of their own only where
they stand alone. Groups of their own are marked forwards only. -/
def memory (backwards : Bool) : Pattern → Nat
  | blank => stateMemory
  | edge _ => stateMemory
  | oneOf s => s.memory backwards
  | seq p q => p.memory backwards + q.memory backwards
  | alt p q =>
    p.memory backwards + q.memory backwards + choiceMemory +
      match q with
      | alt _ _ => 0
      | _ => 2 * stateMemory + choiceMemory
  | repeated p least most =>
    let turn := p.memory backwards
    if p.isWeightless then
      repeatedMemory turn false (min least 1) (some ((most.map (min 1)).getD 1))
    else repeatedMemory turn p.takesSome least most
  | group p => p.memory backwards + if backwards then 0 else 2 * stateMemory

def totalMemory (backwards : Bool) (p : Pattern) : Nat :=
  p.memory backwards + (if backwards then 0 else 2 * stateMemory) + stateMemory +
    (3 * stateMemory + branchMemory + 2 * choiceMemory)

end Pattern

end ClausalSearch
