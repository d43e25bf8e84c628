import ClausalSearch.Journal.Pattern.Tree
import ClausalSearch.Text.Numeral

/-!
A place in a pattern that is being read, and the smallest steps of reading. Where blanks are
ignored, so are comments, which run from a hash sign to the end of the line.
-/
namespace ClausalSearch

structure Cursor where
  offset : Nat := 0
  rest : List Char
  ignoreBlanks : Bool := false
  names : List (List Char × Span) := []
  deriving DecidableEq, Repr

abbrev PatternReader := StateT Cursor (Except PatternFault)

def dropBlanks (inComment : Bool) : List Char → List Char
  | [] => []
  | c :: rest =>
    if inComment then dropBlanks (c ≠ '\n') rest
    else if Text.isBlank c then dropBlanks false rest
    else if c = '#' then dropBlanks true rest
    else c :: rest

def Cursor.next (c : Cursor) : Cursor :=
  match c.rest with
  | [] => c
  | _ :: rest => { c with offset := c.offset + 1, rest }

def Cursor.skipBlanks (c : Cursor) : Cursor :=
  if c.ignoreBlanks then
    let rest := dropBlanks false c.rest
    { c with offset := c.offset + (c.rest.length - rest.length), rest }
  else c

/-- The character behind the next one; a comment before it counts up to its first character. -/
def Cursor.second? (c : Cursor) : Option Char :=
  let after := c.rest.tail
  if c.ignoreBlanks then
    let shown := match after.dropWhile Text.isBlank with
      | '#' :: comment => comment.dropWhile Text.isBlank
      | other => other
    shown.head?.or after.head?
  else after.head?

namespace PatternReader

def here : PatternReader Nat := return (← get).offset

def next? : PatternReader (Option Char) := return (← get).rest.head?

def left : PatternReader Nat := return (← get).rest.length

def advance : PatternReader Unit := modify Cursor.next

def skipBlanks : PatternReader Unit := modify Cursor.skipBlanks

def advanceOverBlanks : PatternReader Unit := do
  advance
  skipBlanks

def fail {α : Type} (kind : PatternFlaw) (start stop : Nat) : PatternReader α :=
  throw (.flaw kind ⟨start, stop⟩ none)

def failHere {α : Type} (kind : PatternFlaw) : PatternReader α := do
  let start ← here
  fail kind start (start + if (← next?).isSome then 1 else 0)

def failBefore {α : Type} (kind : PatternFlaw) : PatternReader α := do
  let start ← here
  fail kind start start

def acceptOne (texts : List (List Char)) : PatternReader Bool := do
  let cursor ← get
  match texts.find? (·.isPrefixOf cursor.rest) with
  | some text =>
    set { cursor with offset := cursor.offset + text.length, rest := cursor.rest.drop text.length }
    return true
  | none => return false

def collect (fits : Char → Bool) : Nat → PatternReader (List Char)
  | 0 => return []
  | bound + 1 => do
    match ← next? with
    | some c =>
      if fits c then
        advanceOverBlanks
        return c :: (← collect fits bound)
      else return []
    | none => return []

def collectAll (fits : Char → Bool) : PatternReader (List Char) := do collect fits (← left)

end PatternReader

end ClausalSearch
