import ClausalSearch.Text.Lines

/-!
Why a pattern cannot be used, and the report of it: the pattern with the faulty stretch marked
below, line by line where it has more than one line, and then the reason.
-/
namespace ClausalSearch

structure Span where
  start : Nat
  stop : Nat
  deriving DecidableEq, Repr

inductive PatternFlaw where
  | backreference
  | countEmpty
  | countReversed
  | countTooLarge
  | countUnclosed
  | classEdge
  | classRangeEnd
  | classRangeReversed
  | classUnclosed
  | codeDigit
  | codeEmpty
  | codeInvalid
  | escapeEnds
  | escapeUnknown
  | flagDangling
  | flagDuplicate
  | flagMissing
  | flagNegatedTwice
  | flagUnknown
  | groupUnclosed
  | groupUnopened
  | lookAround
  | nameDuplicate
  | nameEmpty
  | nameInvalid
  | nameUnclosed
  | nestedTooDeep
  | notUtf8
  | propertyEscape
  | propertyUnknown
  | propertyValueUnknown
  | repetitionMissing
  | unicodeOff
  | wordEdgeEnds
  | wordEdgeUnclosed
  | wordEdgeUnknown
  deriving DecidableEq, Repr

/-- A flaw at a place of the pattern, perhaps one that clashes with an earlier place; or a pattern
that would take more than the memory allowed. -/
inductive PatternFault where
  | flaw (kind : PatternFlaw) (span : Span) (earlier : Option Span)
  | tooLarge
  deriving DecidableEq, Repr

def maxNesting : Nat := 250

def maxPatternMemory : Nat := 10485760

def PatternFlaw.message : PatternFlaw → String
  | .backreference => "backreferences are not supported"
  | .countEmpty => "repetition quantifier expects a valid decimal"
  | .countReversed => "invalid repetition count range, the start must be <= the end"
  | .countTooLarge => "decimal literal invalid"
  | .countUnclosed => "unclosed counted repetition"
  | .classEdge => "invalid escape sequence found in character class"
  | .classRangeEnd => "invalid range boundary, must be a literal"
  | .classRangeReversed => "invalid character class range, the start must be <= the end"
  | .classUnclosed => "unclosed character class"
  | .codeDigit => "invalid hexadecimal digit"
  | .codeEmpty => "hexadecimal literal empty"
  | .codeInvalid => "hexadecimal literal is not a Unicode scalar value"
  | .escapeEnds => "incomplete escape sequence, reached end of pattern prematurely"
  | .escapeUnknown => "unrecognized escape sequence"
  | .flagDangling => "dangling flag negation operator"
  | .flagDuplicate => "duplicate flag"
  | .flagMissing => "expected flag but got end of regex"
  | .flagNegatedTwice => "flag negation operator repeated"
  | .flagUnknown => "unrecognized flag"
  | .groupUnclosed => "unclosed group"
  | .groupUnopened => "unopened group"
  | .lookAround => "look-around, including look-ahead and look-behind, is not supported"
  | .nameDuplicate => "duplicate capture group name"
  | .nameEmpty => "empty capture group name"
  | .nameInvalid => "invalid capture group character"
  | .nameUnclosed => "unclosed capture group name"
  | .nestedTooDeep =>
    s!"exceed the maximum number of nested parentheses/brackets ({maxNesting})"
  | .notUtf8 => "pattern can match invalid UTF-8"
  | .propertyEscape => "invalid Unicode character class"
  | .propertyUnknown => "Unicode property not found"
  | .propertyValueUnknown => "Unicode property value not found"
  | .repetitionMissing => "repetition operator missing expression"
  | .unicodeOff => "Unicode not allowed here"
  | .wordEdgeEnds =>
    "found either the beginning of a special word boundary or a bounded repetition on a \\b " ++
      "with an opening brace, but no closing brace"
  | .wordEdgeUnclosed =>
    "special word boundary assertion is either unclosed or contains an invalid character"
  | .wordEdgeUnknown =>
    "unrecognized special word boundary assertion, valid choices are: start, end, start-half " ++
      "or end-half"

namespace PatternFault

def location (pattern : List Char) (offset : Nat) : Nat × Nat :=
  let lines := (pattern.take offset).splitOnP (· == '\n')
  (lines.length, (lines.getLastD []).length + 1)

def isOneLine (pattern : List Char) (span : Span) : Bool :=
  (location pattern span.start).1 == (location pattern span.stop).1

def marks (pattern : List Char) (spans : List Span) : List Char :=
  spans.foldl (fun marked span =>
    let column := (location pattern span.start).2
    marked ++ List.replicate (column - 1 - marked.length) ' ' ++
      List.replicate (max 1 (span.stop - span.start)) '^') []

/-- Lines are numbered in a column of this width, and one line alone is not numbered. -/
def numberWidth (pattern : List Char) : Nat :=
  let count := (pattern.splitOnP (· == '\n')).length
  if count = 1 then 0 else (toString count).length

def notated (pattern : List Char) (spans : List Span) : List String :=
  let width := numberWidth pattern
  let indent := if width = 0 then 4 else width + 2
  (Text.numberedLines pattern).flatMap fun (line, number) =>
    let digits := (toString number).toList
    let label := List.replicate (width - digits.length) ' ' ++ digits ++ [':', ' ']
    let marked := spans.filter fun span => (location pattern span.start).1 == number
    String.ofList ((if width = 0 then List.replicate indent ' ' else label) ++ line) ::
      if marked.isEmpty then []
      else [String.ofList (List.replicate indent ' ' ++ marks pattern marked)]

def reach (pattern : List Char) (span : Span) : String :=
  let (line, column) := location pattern span.start
  let (lastLine, lastColumn) := location pattern span.stop
  s!"on line {line} (column {column}) through line {lastLine} (column {lastColumn - 1})"

def report (pattern : List Char) : PatternFault → String
  | .tooLarge => s!"Compiled regex exceeds size limit of {maxPatternMemory} bytes."
  | .flaw kind span earlier =>
    let spans := (span :: earlier.toList).mergeSort fun s t => s.start ≤ t.start
    let (short, long) := spans.partition (isOneLine pattern)
    let lines := notated pattern short
    let rule := if pattern.contains '\n' then [String.ofList (List.replicate 79 '~')] else []
    "\n".intercalate
      (["regex parse error:"] ++ rule ++ lines ++ rule ++ long.map (reach pattern) ++
        ["error: " ++ kind.message])

end PatternFault

end ClausalSearch
