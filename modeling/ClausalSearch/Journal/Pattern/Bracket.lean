import ClausalSearch.Journal.Pattern.Escape

/-!
Reading classes in brackets: characters, ranges, escapes, classes of ASCII such as `[:digit:]`,
brackets inside brackets, and the operations `&&`, `--` and `~~`, which join from the left all that
stands before them in the bracket with all that follows up to the next of them.
-/
namespace ClausalSearch

/-- Items of a class side by side, newest first, and their stretch of the text. -/
structure ClassItems where
  span : Span
  items : List ClassTree := []

def ClassItems.push (items : ClassItems) (item : ClassTree) : ClassItems :=
  { span := ⟨if items.items.isEmpty then item.span.start else items.span.start, item.span.stop⟩
    items := item :: items.items }

def ClassItems.tree (items : ClassItems) : ClassTree :=
  match items.items with
  | [] => .blank items.span
  | [item] => item
  | _ => .union items.span items.items.reverse

structure PendingOperation where
  kind : SetOperation
  left : ClassTree

def ClassItems.complete (pending : Option PendingOperation) (items : ClassItems) : ClassTree :=
  match pending with
  | none => items.tree
  | some p => .operation ⟨p.left.span.start, items.tree.span.stop⟩ p.kind p.left items.tree

def AsciiClass.all : List (String × AsciiClass) :=
  [("alnum", .alnum), ("alpha", .alpha), ("ascii", .ascii), ("blank", .blank), ("cntrl", .cntrl),
   ("digit", .digit), ("graph", .graph), ("lower", .lower), ("print", .print), ("punct", .punct),
   ("space", .space), ("upper", .upper), ("word", .word), ("xdigit", .xdigit)]

def setOperation? : Option Char → Option Char → Option SetOperation
  | some '&', some '&' => some .intersection
  | some '-', some '-' => some .difference
  | some '~', some '~' => some .symmetricDifference
  | _, _ => none

namespace PatternReader

def readAsciiClass? : PatternReader (Option ClassTree) := do
  let cursor ← get
  let (negated, body) := match cursor.rest with
    | '[' :: ':' :: '^' :: body => (true, body)
    | '[' :: ':' :: body => (false, body)
    | _ => (false, [])
  let name := body.takeWhile (· ≠ ':')
  let opening := if negated then 3 else 2
  let length := opening + name.length + 2
  match AsciiClass.all.lookup (String.ofList name) with
  | none => return none
  | some kind =>
    if [':', ']'].isPrefixOf (body.drop name.length) then
      set { cursor with offset := cursor.offset + length, rest := cursor.rest.drop length }
      return some (.ascii ⟨cursor.offset, cursor.offset + length⟩ kind negated)
    else return none

def readClassAtom : PatternReader Atom := do
  match ← next? with
  | some '\\' => readEscape
  | some char =>
    let start ← here
    advance
    return .literal { span := ⟨start, start + 1⟩, char }
  | none => failHere .classUnclosed

def rangeEnd : Atom → PatternReader CharLiteral
  | .literal l => return l
  | atom => fail .classRangeEnd atom.span.start atom.span.stop

def readClassItem (opened : Span) : PatternReader ClassTree := do
  let first ← readClassAtom
  skipBlanks
  if (← next?).isNone then fail .classUnclosed opened.start opened.stop
  let second := (← get).second?
  if (← next?) ≠ some '-' ∨ second = some ']' ∨ second = some '-' then
    match first with
    | .literal l => return .literal l
    | .short span kind negated => return .short span kind negated
    | .property span query negated => return .property span query negated
    | .dot span | .edge span _ => fail .classEdge span.start span.stop
  else
    advanceOverBlanks
    if (← next?).isNone then fail .classUnclosed opened.start opened.stop
    let last ← readClassAtom
    let span : Span := ⟨first.span.start, last.span.stop⟩
    let first ← rangeEnd first
    let last ← rangeEnd last
    if last.char < first.char then fail .classRangeReversed span.start span.stop
    return .range span first last

/-- Reads hyphens at the beginning of a class, which stand for themselves. -/
def readHyphens (start : Nat) : Nat → ClassItems → PatternReader ClassItems
  | 0, items => return items
  | bound + 1, items => do
    if (← next?) ≠ some '-' then return items
    let place ← here
    advanceOverBlanks
    if (← next?).isNone then fail .classUnclosed start start
    readHyphens start bound
      (items.push (.literal { span := ⟨place, place + 1⟩, char := '-' }))

structure ClassOpening where
  span : Span
  negated : Bool
  items : ClassItems

def readClassOpening : PatternReader ClassOpening := do
  let start ← here
  advanceOverBlanks
  if (← next?).isNone then fail .classUnclosed start (← here)
  let negated := (← next?) == some '^'
  if negated then
    advanceOverBlanks
    if (← next?).isNone then fail .classUnclosed start (← here)
  let place ← here
  let mut items ← readHyphens start (← left) { span := ⟨place, place⟩ }
  if items.items.isEmpty ∧ (← next?) = some ']' then
    items := items.push (.literal { span := ⟨place, place + 1⟩, char := ']' })
    advanceOverBlanks
    if (← next?).isNone then fail .classUnclosed start (← here)
  return { span := ⟨start, ← here⟩, negated, items }

def readClass (opened : Span) :
    Nat → Option PendingOperation → ClassItems → PatternReader ClassTree
  | 0, pending, items => return items.complete pending
  | bound + 1, pending, items => do
    skipBlanks
    let cursor ← get
    match setOperation? cursor.rest.head? cursor.rest.tail.head? with
    | some kind =>
      advance
      advance
      let place ← here
      readClass opened bound (some ⟨kind, items.complete pending⟩) { span := ⟨place, place⟩ }
    | none =>
      match cursor.rest.head? with
      | none => fail .classUnclosed opened.start opened.stop
      | some ']' => return items.complete pending
      | some '[' =>
        match ← readAsciiClass? with
        | some item => readClass opened bound pending (items.push item)
        | none =>
          let opening ← readClassOpening
          let inner ← readClass opening.span bound none opening.items
          advance
          let span : Span := ⟨opening.span.start, ← here⟩
          readClass opened bound pending (items.push (.bracket span opening.negated inner))
      | some _ =>
        let item ← readClassItem opened
        readClass opened bound pending (items.push item)

def readBracket : PatternReader PatternTree := do
  let opening ← readClassOpening
  let inner ← readClass opening.span ((← left) + 1) none opening.items
  advance
  return .bracket ⟨opening.span.start, ← here⟩ opening.negated inner

end PatternReader

end ClausalSearch
