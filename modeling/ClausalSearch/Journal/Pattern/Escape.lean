import ClausalSearch.Journal.Pattern.Cursor

/-!
Reading what a backslash introduces: characters by code, classes, properties and edges.
-/
namespace ClausalSearch.PatternReader

def charOfCode (digits : List Char) (start stop : Nat) : PatternReader Char :=
  let code := Text.positional 16 digits
  if h : code.isValidChar then return Char.ofNatAux code h else fail .codeInvalid start stop

def readDigits : Nat → PatternReader (List Char)
  | 0 => return []
  | count + 1 => do
    match ← next? with
    | none => failBefore .escapeEnds
    | some c =>
      if (Text.hexDigit? c).isNone then failHere .codeDigit
      advanceOverBlanks
      return c :: (← readDigits count)

def readCode (start count : Nat) : PatternReader Atom := do
  advanceOverBlanks
  let opened ← here
  if (← next?) = some '\x7b' then
    advanceOverBlanks
    let digits ← collectAll fun c => (Text.hexDigit? c).isSome
    match ← next? with
    | none => fail .escapeEnds opened (← here)
    | some '\x7d' =>
      let stop ← here
      advanceOverBlanks
      if digits.isEmpty then fail .codeEmpty opened (← here)
      let char ← charOfCode digits (opened + 1) stop
      return .literal { span := ⟨start, ← here⟩, char }
    | some _ => failHere .codeDigit
  else
    let digits ← readDigits count
    let stop ← here
    let char ← charOfCode digits opened stop
    return .literal { span := ⟨start, stop⟩, char, isByte := count == 2 }

/-- A name, or a name and a value with one of the signs `!=`, `:` and `=` between them; of these
the first that occurs at all decides. -/
def propertyQuery (name : List Char) : PropertyQuery :=
  let before := fun (sign : List Char) =>
    (List.range name.length).find? fun i => sign.isPrefixOf (name.drop i)
  let split := fun (sign : List Char) =>
    (before sign).map fun i => PropertyQuery.valued (name.take i) (name.drop (i + sign.length))
  (((split ['!', '=']).or (split [':'])).or (split ['='])).getD (.named name)

def readProperty (start : Nat) (negated : Bool) : PatternReader Atom := do
  advanceOverBlanks
  match ← next? with
  | none => failBefore .escapeEnds
  | some '\x7b' =>
    advanceOverBlanks
    let name ← collectAll (· ≠ '\x7d')
    if (← next?).isNone then failBefore .escapeEnds
    advance
    return .property ⟨start, ← here⟩ (propertyQuery name) negated
  | some '\\' => failHere .propertyEscape
  | some c =>
    advanceOverBlanks
    return .property ⟨start, ← here⟩ (.named [c]) negated

def wordEdge? : List Char → Option WordEdge
  | ['s', 't', 'a', 'r', 't'] => some .start
  | ['e', 'n', 'd'] => some .finish
  | ['s', 't', 'a', 'r', 't', '-', 'h', 'a', 'l', 'f'] => some .startHalf
  | ['e', 'n', 'd', '-', 'h', 'a', 'l', 'f'] => some .finishHalf
  | _ => none

/-- Reads the name in braces behind a word edge. Braces that do not begin like a name are left to
be read as a repetition. -/
def readWordEdge (start : Nat) : PatternReader Atom := do
  let opened ← get
  let fits := fun (c : Char) => c.isAlpha || c == '-'
  if opened.rest.head? ≠ some '\x7b' then
    return .edge ⟨start, opened.offset⟩ (.word .boundary)
  advanceOverBlanks
  match ← next? with
  | none => fail .wordEdgeEnds start (← here)
  | some c =>
    if !fits c then
      set opened
      return .edge ⟨start, opened.offset⟩ (.word .boundary)
    let named ← here
    let name ← collectAll fits
    if (← next?) ≠ some '\x7d' then fail .wordEdgeUnclosed opened.offset (← here)
    let stop ← here
    advance
    match wordEdge? name with
    | some edge => return .edge ⟨start, ← here⟩ (.word edge)
    | none => fail .wordEdgeUnknown named stop

def escapedControl? : Char → Option Char
  | 'a' => some '\x07'
  | 'f' => some '\x0c'
  | 't' => some '\t'
  | 'n' => some '\n'
  | 'r' => some '\r'
  | 'v' => some '\x0b'
  | _ => none

def isEscapable (c : Char) : Bool := c.toNat ≤ 0x7F && !c.isAlphanum && c ≠ '<' && c ≠ '>'

def shortClass? (c : Char) : Option ShortClass :=
  match c.toLower with
  | 'd' => some .digit
  | 's' => some .space
  | 'w' => some .word
  | _ => none

def escapedEdge? : Char → Option EdgeMark
  | 'A' => some .textStart
  | 'z' => some .textEnd
  | 'B' => some (.word .inside)
  | '<' => some (.word .start)
  | '>' => some (.word .finish)
  | _ => none

def readEscape : PatternReader Atom := do
  let start ← here
  advance
  match ← next? with
  | none => fail .escapeEnds start (← here)
  | some 'x' => readCode start 2
  | some 'u' => readCode start 4
  | some 'U' => readCode start 8
  | some 'p' => readProperty start false
  | some 'P' => readProperty start true
  | some c =>
    advance
    let span : Span := ⟨start, ← here⟩
    if c.isDigit then fail .backreference span.start span.stop
    if isEscapable c then return .literal { span, char := c }
    if c = 'b' then return ← readWordEdge start
    match shortClass? c, escapedControl? c, escapedEdge? c with
    | some kind, _, _ => return .short span kind c.isUpper
    | _, some char, _ => return .literal { span, char }
    | _, _, some mark => return .edge span mark
    | _, _, _ => fail .escapeUnknown span.start span.stop

end ClausalSearch.PatternReader
