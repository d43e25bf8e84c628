import ClausalSearch.Journal.Pattern
import ClausalSearch.Journal.Pattern.Fault

/-!
The text of a pattern as a tree, in which each node knows its stretch of the text.
-/
namespace ClausalSearch

inductive PatternFlag where
  | ignoreCase
  | multiLine
  | dotAll
  | swapGreed
  | unicode
  | returns
  | ignoreBlanks
  deriving DecidableEq, Repr

abbrev FlagChanges := List (PatternFlag × Bool)

/-- The last change of a flag counts; each flag is changed once at most. -/
def FlagChanges.value? (changes : FlagChanges) (flag : PatternFlag) : Option Bool :=
  changes.lookup flag

structure CharLiteral where
  span : Span
  char : Char
  isByte : Bool := false
  deriving DecidableEq, Repr

inductive ShortClass where
  | digit
  | space
  | word
  deriving DecidableEq, Repr

inductive AsciiClass where
  | alnum
  | alpha
  | ascii
  | blank
  | cntrl
  | digit
  | graph
  | lower
  | print
  | punct
  | space
  | upper
  | word
  | xdigit
  deriving DecidableEq, Repr

inductive PropertyQuery where
  | named (name : List Char)
  | valued (name value : List Char)
  deriving DecidableEq, Repr

inductive EdgeMark where
  | lineStart
  | lineEnd
  | textStart
  | textEnd
  | word (edge : WordEdge)
  deriving DecidableEq, Repr

inductive Atom where
  | literal (l : CharLiteral)
  | dot (span : Span)
  | edge (span : Span) (mark : EdgeMark)
  | short (span : Span) (kind : ShortClass) (negated : Bool)
  | property (span : Span) (query : PropertyQuery) (negated : Bool)
  deriving DecidableEq, Repr

def Atom.span : Atom → Span
  | literal l => l.span
  | dot span | edge span _ | short span _ _ | property span _ _ => span

inductive SetOperation where
  | intersection
  | difference
  | symmetricDifference
  deriving DecidableEq, Repr

inductive ClassTree where
  | blank (span : Span)
  | literal (l : CharLiteral)
  | range (span : Span) (first last : CharLiteral)
  | ascii (span : Span) (kind : AsciiClass) (negated : Bool)
  | short (span : Span) (kind : ShortClass) (negated : Bool)
  | property (span : Span) (query : PropertyQuery) (negated : Bool)
  | bracket (span : Span) (negated : Bool) (inner : ClassTree)
  | union (span : Span) (items : List ClassTree)
  | operation (span : Span) (kind : SetOperation) (left right : ClassTree)

def ClassTree.span : ClassTree → Span
  | literal l => l.span
  | blank span | range span _ _ | ascii span _ _ | short span _ _ | property span _ _
  | bracket span _ _ | union span _ | operation span _ _ _ => span

inductive GroupKind where
  | capturing
  | plain (changes : FlagChanges)
  deriving DecidableEq, Repr

inductive PatternTree where
  | blank (span : Span)
  | flags (span : Span) (changes : FlagChanges)
  | atom (a : Atom)
  | bracket (span : Span) (negated : Bool) (inner : ClassTree)
  | repeated (span : Span) (inner : PatternTree) (least : Nat) (most : Option Nat)
  | group (span : Span) (kind : GroupKind) (inner : PatternTree)
  | alternation (span : Span) (branches : List PatternTree)
  | concat (span : Span) (items : List PatternTree)

def PatternTree.span : PatternTree → Span
  | atom a => a.span
  | blank span | flags span _ | bracket span _ _ | repeated span _ _ _ | group span _ _
  | alternation span _ | concat span _ => span

mutual

/-- The first node that lies too deep, below `depth` nodes that hold others. -/
def ClassTree.tooDeep? (depth : Nat) : ClassTree → Option Span
  | .blank _ | .literal _ | .range _ _ _ | .ascii _ _ _ | .short _ _ _ | .property _ _ _ => none
  | .bracket span _ inner =>
    if depth = maxNesting then some span else inner.tooDeep? (depth + 1)
  | .union span items =>
    if depth = maxNesting then some span else ClassTree.tooDeepIn? (depth + 1) items
  | .operation span _ left right =>
    if depth = maxNesting then some span
    else (left.tooDeep? (depth + 1)).or (right.tooDeep? (depth + 1))

def ClassTree.tooDeepIn? (depth : Nat) : List ClassTree → Option Span
  | [] => none
  | item :: rest => (item.tooDeep? depth).or (ClassTree.tooDeepIn? depth rest)

end

mutual

def PatternTree.tooDeep? (depth : Nat) : PatternTree → Option Span
  | .blank _ | .flags _ _ | .atom _ => none
  | .bracket span _ inner =>
    if depth = maxNesting then some span else inner.tooDeep? (depth + 1)
  | .repeated span inner _ _ | .group span _ inner =>
    if depth = maxNesting then some span else inner.tooDeep? (depth + 1)
  | .alternation span branches =>
    if depth = maxNesting then some span else PatternTree.tooDeepIn? (depth + 1) branches
  | .concat span items =>
    if depth = maxNesting then some span else PatternTree.tooDeepIn? (depth + 1) items

def PatternTree.tooDeepIn? (depth : Nat) : List PatternTree → Option Span
  | [] => none
  | item :: rest => (item.tooDeep? depth).or (PatternTree.tooDeepIn? depth rest)

end

end ClausalSearch
