import ClausalSearch.Journal.Pattern.Bracket
import ClausalSearch.Text.Property

/-!
Reading a pattern: branches between bars, groups in parentheses, repetitions of what stands right
before them, and flags. The first flaw from the left decides; nesting is looked at last.
-/
namespace ClausalSearch

/-- The branches read so far of the innermost open group, newest first, and the items of the
branch that is being read, newest first. -/
structure OpenBranches where
  start : Nat
  branches : List PatternTree := []
  branchStart : Nat
  items : List PatternTree := []

def PatternTree.ofItems (span : Span) : List PatternTree → PatternTree
  | [] => .blank span
  | [item] => item
  | items => .concat span items

namespace OpenBranches

def startingAt (place : Nat) : OpenBranches := { start := place, branchStart := place }

def push (b : OpenBranches) (item : PatternTree) : OpenBranches :=
  { b with items := item :: b.items }

def branch (b : OpenBranches) (stop : Nat) : PatternTree :=
  .ofItems ⟨b.branchStart, stop⟩ b.items.reverse

def bar (b : OpenBranches) (stop : Nat) : OpenBranches :=
  { start := b.start, branches := b.branch stop :: b.branches, branchStart := stop + 1 }

def tree (b : OpenBranches) (stop : Nat) : PatternTree :=
  if b.branches.isEmpty then b.branch stop
  else .alternation ⟨b.start, stop⟩ (b.branch stop :: b.branches).reverse

end OpenBranches

structure OpenGroup where
  opened : Span
  kind : GroupKind
  ignoreBlanks : Bool
  outer : OpenBranches

def patternFlag? : Char → Option PatternFlag
  | 'i' => some .ignoreCase
  | 'm' => some .multiLine
  | 's' => some .dotAll
  | 'U' => some .swapGreed
  | 'u' => some .unicode
  | 'R' => some .returns
  | 'x' => some .ignoreBlanks
  | _ => none

structure FlagItem where
  flag : Option PatternFlag
  span : Span
  deriving DecidableEq, Repr

def FlagChanges.ofItems (items : List FlagItem) : FlagChanges :=
  let (on, off) := items.span (·.flag.isSome)
  on.filterMap (fun item => item.flag.map (·, true)) ++
    off.filterMap (fun item => item.flag.map (·, false))

namespace PatternReader

def readFlags : Nat → List FlagItem → PatternReader (List FlagItem)
  | 0, seen => return seen.reverse
  | bound + 1, seen => do
    match ← next? with
    | none => failBefore .flagMissing
    | some c =>
      if c = ':' ∨ c = ')' then
        match seen with
        | ⟨none, span⟩ :: _ => fail .flagDangling span.start span.stop
        | _ => return seen.reverse
      else
        let flag := patternFlag? c
        if flag.isNone ∧ c ≠ '-' then failHere .flagUnknown
        let place ← here
        let span : Span := ⟨place, place + 1⟩
        match seen.find? (·.flag == flag) with
        | some earlier =>
          let kind := if flag.isNone then PatternFlaw.flagNegatedTwice else .flagDuplicate
          throw (.flaw kind span (some earlier.span))
        | none =>
          advance
          if (← next?).isNone then failBefore .flagMissing
          readFlags bound (⟨flag, span⟩ :: seen)

def fitsGroupName (isFirst : Bool) (c : Char) : Bool :=
  c == '_' || Text.alphabetic.has c || (!isFirst && (".[]".contains c || Text.numeric.has c))

def readGroupName : PatternReader Unit := do
  let start ← here
  let cursor ← get
  let name := cursor.rest.takeWhile (· ≠ '>')
  match name.zipIdx.find? fun (c, i) => !fitsGroupName (i == 0) c with
  | some (_, i) => fail .nameInvalid (start + i) (start + i + 1)
  | none =>
    let stop := start + name.length
    if name.length = cursor.rest.length then fail .nameUnclosed stop stop
    if name.isEmpty then fail .nameEmpty start start
    let span : Span := ⟨start, stop⟩
    match cursor.names.lookup name with
    | some earlier => throw (.flaw .nameDuplicate span (some earlier))
    | none =>
      set { cursor with
        offset := stop + 1, rest := cursor.rest.drop (name.length + 1)
        names := (name, span) :: cursor.names }

def readOpening : PatternReader (GroupKind ⊕ PatternTree) := do
  let start ← here
  advanceOverBlanks
  if ← acceptOne [['?', '='], ['?', '!'], ['?', '<', '='], ['?', '<', '!']] then
    fail .lookAround start (← here)
  let inner ← here
  if ← acceptOne [['?', 'P', '<'], ['?', '<']] then
    readGroupName
    return .inl .capturing
  else if ← acceptOne [['?']] then
    if (← next?).isNone then fail .groupUnclosed start (start + 1)
    let items ← readFlags (← left) []
    let changes := FlagChanges.ofItems items
    let isGroup := (← next?) == some ':'
    advance
    if isGroup then return .inl (.plain changes)
    if items.isEmpty then fail .repetitionMissing inner inner
    return .inr (.flags ⟨start, ← here⟩ changes)
  else return .inl .capturing

def repeatable? : List PatternTree → Option (PatternTree × List PatternTree)
  | [] | .flags _ _ :: _ => none
  | item :: before => some (item, before)

/-- A question mark right behind a repetition asks for short matches, which may be anywhere. -/
def skipLazyMark : PatternReader Unit := do
  if (← next?) = some '?' then advance

def maxCount : Nat := 4294967295

/-- A count, or its flaw, which shows only when the count is used. -/
def readCount : PatternReader (Except PatternFault Nat) := do
  let _ ← collectAll Text.isBlank
  let start ← here
  let digits ← collectAll Char.isDigit
  let span : Span := ⟨start, ← here⟩
  let _ ← collectAll Text.isBlank
  if digits.isEmpty then return .error (.flaw .countEmpty span none)
  let count := Text.positional 10 digits
  if maxCount < count then return .error (.flaw .countTooLarge span none)
  return .ok count

def readCounts : PatternReader (Nat × Option Nat) := do
  let start ← here
  let unclosed := fun {α : Type} => do fail (α := α) .countUnclosed start (← here)
  advanceOverBlanks
  if (← next?).isNone then unclosed
  let least ← readCount
  if (← next?).isNone then unclosed
  let (least, most) ←
    if (← next?) = some ',' then
      advanceOverBlanks
      if (← next?).isNone then unclosed
      if (← next?) = some '\x7d' then pure (← least, none)
      else
        let least ← least
        let most ← (← readCount)
        pure (least, some most)
    else
      let count ← least
      pure (count, some count)
  if (← next?) ≠ some '\x7d' then unclosed
  advanceOverBlanks
  skipLazyMark
  if most.any (· < least) then fail .countReversed start (← here)
  return (least, most)

def readRepetition (mark : Char) (items : List PatternTree) :
    PatternReader (List PatternTree) := do
  match repeatable? items with
  | none => failBefore .repetitionMissing
  | some (item, before) =>
    let (least, most) ←
      if mark = '\x7b' then readCounts
      else do
        advance
        skipLazyMark
        pure (if mark = '+' then 1 else 0, if mark = '?' then some 1 else none)
    return .repeated ⟨item.span.start, ← here⟩ item least most :: before

def readAtom (c : Char) : PatternReader Atom := do
  if c = '\\' then readEscape
  else
    let start ← here
    advance
    let span : Span := ⟨start, start + 1⟩
    match c with
    | '.' => return .dot span
    | '^' => return .edge span .lineStart
    | '$' => return .edge span .lineEnd
    | char => return .literal { span, char }

def readBranches : Nat → List OpenGroup → OpenBranches → PatternReader PatternTree
  | 0, _, inner => return inner.tree (← here)
  | bound + 1, groups, inner => do
    skipBlanks
    let place ← here
    match ← next? with
    | none =>
      match groups with
      | [] => return inner.tree place
      | group :: _ => fail .groupUnclosed group.opened.start group.opened.stop
    | some '(' =>
      let ignoreBlanks := (← get).ignoreBlanks
      match ← readOpening with
      | .inl kind =>
        let changed := match kind with
          | .plain changes => changes.value? .ignoreBlanks
          | .capturing => none
        modify fun c => { c with ignoreBlanks := changed.getD ignoreBlanks }
        let opened : Span := ⟨place, place + 1⟩
        readBranches bound (⟨opened, kind, ignoreBlanks, inner⟩ :: groups) (.startingAt (← here))
      | .inr (.flags span changes) =>
        modify fun c =>
          { c with ignoreBlanks := (changes.value? .ignoreBlanks).getD ignoreBlanks }
        readBranches bound groups (inner.push (.flags span changes))
      | .inr tree => readBranches bound groups (inner.push tree)
    | some ')' =>
      match groups with
      | [] => failHere .groupUnopened
      | group :: groups =>
        advance
        modify fun c => { c with ignoreBlanks := group.ignoreBlanks }
        let span : Span := ⟨group.opened.start, place + 1⟩
        readBranches bound groups (group.outer.push (.group span group.kind (inner.tree place)))
    | some '|' =>
      advance
      readBranches bound groups (inner.bar place)
    | some '[' => readBranches bound groups (inner.push (← readBracket))
    | some c =>
      if "*+?\x7b".contains c then
        readBranches bound groups { inner with items := ← readRepetition c inner.items }
      else readBranches bound groups (inner.push (.atom (← readAtom c)))

end PatternReader

def PatternTree.read (text : List Char) : Except PatternFault PatternTree := do
  let reader := PatternReader.readBranches (text.length + 1) [] (.startingAt 0)
  let (tree, _) ← reader.run { rest := text }
  match tree.tooDeep? 0 with
  | none => return tree
  | some span => throw (.flaw .nestedTooDeep span none)

end ClausalSearch
