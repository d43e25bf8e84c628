import ClausalSearch.Journal.Pattern.Memory
import ClausalSearch.Journal.Pattern.Reader
import ClausalSearch.Text.CaseFolding
import ClausalSearch.Text.NamedSet

/-!
From the text of a pattern to the pattern. Flags hold from where they are changed to the end of the
group around; with Unicode switched off, classes have characters of ASCII alone.
-/
namespace ClausalSearch

structure PatternFlags where
  ignoreCase : Bool := false
  multiLine : Bool := false
  dotAll : Bool := false
  unicode : Bool := true
  returns : Bool := false
  deriving DecidableEq, Repr

def PatternFlags.change (flags : PatternFlags) (changes : FlagChanges) : PatternFlags :=
  { ignoreCase := (changes.value? .ignoreCase).getD flags.ignoreCase
    multiLine := (changes.value? .multiLine).getD flags.multiLine
    dotAll := (changes.value? .dotAll).getD flags.dotAll
    unicode := (changes.value? .unicode).getD flags.unicode
    returns := (changes.value? .returns).getD flags.returns }

def AsciiClass.chars : AsciiClass → CharSet
  | .alnum => .ofRanges [(0x30, 0x39), (0x41, 0x5A), (0x61, 0x7A)]
  | .alpha => .ofRanges [(0x41, 0x5A), (0x61, 0x7A)]
  | .ascii => .range 0 0x7F
  | .blank => .ofRanges [(0x09, 0x09), (0x20, 0x20)]
  | .cntrl => .ofRanges [(0x00, 0x1F), (0x7F, 0x7F)]
  | .digit => .range 0x30 0x39
  | .graph => .range 0x21 0x7E
  | .lower => .range 0x61 0x7A
  | .print => .range 0x20 0x7E
  | .punct => .ofRanges [(0x21, 0x2F), (0x3A, 0x40), (0x5B, 0x60), (0x7B, 0x7E)]
  | .space => .ofRanges [(0x09, 0x0D), (0x20, 0x20)]
  | .upper => .range 0x41 0x5A
  | .word => Text.asciiWordChars
  | .xdigit => .ofRanges [(0x30, 0x39), (0x41, 0x46), (0x61, 0x66)]

def ShortClass.chars (unicode : Bool) : ShortClass → CharSet
  | .digit => if unicode then Text.decimalDigits else AsciiClass.digit.chars
  | .space => if unicode then .ofRanges Text.blankRanges else AsciiClass.space.chars
  | .word => if unicode then Text.wordChars else Text.asciiWordChars

def faulty {α : Type} (kind : PatternFlaw) (span : Span) : Except PatternFault α :=
  .error (.flaw kind span none)

namespace PatternFlags

def fold (flags : PatternFlags) (s : CharSet) : CharSet :=
  if !flags.ignoreCase then s
  else if flags.unicode then Text.foldCase s else Text.foldAsciiCase s

/-- What a negated class leaves out; of bytes it would leave parts of characters. -/
def negate (flags : PatternFlags) (negated : Bool) (span : Span) (s : CharSet) :
    Except PatternFault CharSet :=
  if !negated then .ok s
  else if flags.unicode then .ok s.compl
  else faulty .notUtf8 span

def short (flags : PatternFlags) (span : Span) (kind : ShortClass) (negated : Bool) :
    Except PatternFault CharSet :=
  flags.negate negated span (kind.chars flags.unicode)

def property (flags : PatternFlags) (span : Span) (query : PropertyQuery) (negated : Bool) :
    Except PatternFault CharSet := do
  if !flags.unicode then faulty .unicodeOff span
  let found := match query with
    | .named name => Text.setNamed name
    | .valued name value => Text.setWithValue name value
  match found with
  | .ok chars => flags.negate negated span (flags.fold chars)
  | .error .unknownProperty => faulty .propertyUnknown span
  | .error .unknownValue => faulty .propertyValueUnknown span

/-- The character of a literal; a byte that is no character by itself cannot be meant. -/
def literal (flags : PatternFlags) (l : CharLiteral) : Except PatternFault Char :=
  if !flags.unicode && l.isByte && 0x7F < l.char.toNat then faulty .notUtf8 l.span
  else .ok l.char

def classLiteral (flags : PatternFlags) (l : CharLiteral) : Except PatternFault Nat := do
  let c ← flags.literal l
  if !flags.unicode && 0x7F < c.toNat then faulty .unicodeOff l.span
  return c.toNat

end PatternFlags

def SetOperation.apply : SetOperation → CharSet → CharSet → CharSet
  | .intersection => .inter
  | .difference => .diff
  | .symmetricDifference => .symmDiff

mutual

def ClassTree.chars (flags : PatternFlags) : ClassTree → Except PatternFault CharSet
  | .blank _ => .ok .empty
  | .literal l => do
    let code ← flags.classLiteral l
    return .range code code
  | .range _ first last => return .range (← flags.classLiteral first) (← flags.classLiteral last)
  | .ascii span kind negated => flags.negate negated span (flags.fold kind.chars)
  | .short span kind negated => flags.short span kind negated
  | .property span query negated => flags.property span query negated
  | .bracket span negated inner => do
    flags.negate negated span (flags.fold (← inner.chars flags))
  | .union _ items => ClassTree.charsOfAll flags items
  | .operation _ kind left right => do
    let left ← left.chars flags
    let right ← right.chars flags
    return kind.apply (flags.fold left) (flags.fold right)

def ClassTree.charsOfAll (flags : PatternFlags) : List ClassTree → Except PatternFault CharSet
  | [] => .ok .empty
  | item :: rest => return (← item.chars flags).union (← ClassTree.charsOfAll flags rest)

end

def EdgeMark.edge (flags : PatternFlags) : EdgeMark → Edge
  | .lineStart => if flags.multiLine then .lineStart flags.returns else .textStart
  | .lineEnd => if flags.multiLine then .lineEnd flags.returns else .textEnd
  | .textStart => .textStart
  | .textEnd => .textEnd
  | .word edge => .word (!flags.unicode) edge

def PatternFlags.dot (flags : PatternFlags) (span : Span) : Except PatternFault CharSet :=
  if !flags.unicode then faulty .notUtf8 span
  else if flags.dotAll then .ok .full
  else if flags.returns then .ok (CharSet.ofRanges [(0x0A, 0x0A), (0x0D, 0x0D)]).compl
  else .ok (CharSet.range 0x0A 0x0A).compl

/-- Without Unicode, a letter beyond ASCII keeps its case. -/
def Atom.pattern (flags : PatternFlags) : Atom → Except PatternFault Pattern
  | .literal l => return .oneOf (flags.fold (.single (← flags.literal l)))
  | .dot span => return .oneOf (← flags.dot span)
  | .edge _ mark => return .edge (mark.edge flags)
  | .short span kind negated => return .oneOf (← flags.short span kind negated)
  | .property span query negated => return .oneOf (← flags.property span query negated)

namespace Pattern

def followedBy : Pattern → Pattern → Pattern
  | blank, q => q
  | p, blank => p
  | p, q => seq p q

def chars? : Pattern → Option CharSet
  | oneOf s => some s
  | _ => none

def anyOf (patterns : List Pattern) : Pattern :=
  match patterns.mapM chars? with
  | some sets => oneOf (.unions sets)
  | none =>
    match patterns.reverse with
    | [] => oneOf .empty
    | last :: before => before.foldl (fun rest p => alt p rest) last

end Pattern

mutual

def PatternTree.pattern (flags : PatternFlags) :
    PatternTree → Except PatternFault (Pattern × PatternFlags)
  | .blank _ => return (.blank, flags)
  | .flags _ changes => return (.blank, flags.change changes)
  | .atom a => return (← a.pattern flags, flags)
  | .bracket span negated inner => do
    let chars ← flags.negate negated span (flags.fold (← inner.chars flags))
    return (.oneOf chars, flags)
  | .repeated _ inner least most => do
    let (p, flags) ← inner.pattern flags
    return (.repeated p least most, flags)
  | .group _ .capturing inner => do
    let (p, _) ← inner.pattern flags
    return (.group p, flags)
  | .group _ (.plain changes) inner => do
    let (p, _) ← inner.pattern (flags.change changes)
    return (p, flags)
  | .alternation _ branches => do
    let (patterns, flags) ← PatternTree.patterns flags branches
    return (.anyOf patterns, flags)
  | .concat _ items => do
    let (patterns, flags) ← PatternTree.patterns flags items
    return (patterns.foldr .followedBy .blank, flags)

def PatternTree.patterns (flags : PatternFlags) :
    List PatternTree → Except PatternFault (List Pattern × PatternFlags)
  | [] => return ([], flags)
  | item :: rest => do
    let (p, flags) ← item.pattern flags
    let (patterns, flags) ← PatternTree.patterns flags rest
    return (p :: patterns, flags)

end

def Pattern.parse (text : List Char) : Except PatternFault Pattern := do
  let tree ← PatternTree.read text
  let (p, _) ← tree.pattern {}
  if maxPatternMemory < max (p.totalMemory false) (p.totalMemory true) then throw .tooLarge
  return p

end ClausalSearch
