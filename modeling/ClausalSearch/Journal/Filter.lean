import ClausalSearch.Journal
import ClausalSearch.Journal.Pattern.Meaning

/-!
Which records are printed, and how. A setting is a list of directives separated by commas, and after
a slash a pattern that the messages must contain. What cannot be read is left out with a warning.
-/
namespace ClausalSearch

structure Directive where
  target : String
  verbosity : Nat
  deriving DecidableEq, Repr

def verbosity? (name : String) : Option Nat :=
  if name.toUpper = "OFF" then some 0
  else (Level.all.find? (·.text = name.toUpper)).map Level.verbosity

/-- A level for every source, or a target, or a target and its level; else the faulty part. -/
def Directive.parse (text : List Char) : Except String Directive :=
  match text.splitOn '=' with
  | [single] =>
    match verbosity? (String.ofList single) with
    | some verbosity => .ok ⟨"", verbosity⟩
    | none => .ok ⟨String.ofList single, Level.trace.verbosity⟩
  | [target, level] =>
    match Text.trim level with
    | [] => .ok ⟨String.ofList target, Level.trace.verbosity⟩
    | name =>
      match verbosity? (String.ofList name) with
      | some verbosity => .ok ⟨String.ofList target, verbosity⟩
      | none => .error (String.ofList name)
  | _ => .error (String.ofList text)

/-- Directives by growing length of their targets; of those that fit a source the last decides. -/
structure Filter where
  directives : List Directive
  pattern : Option Pattern := none
  warnings : List String := []
  deriving DecidableEq, Repr

namespace Filter

def silent : Filter := { directives := [] }

def sortDirectives (directives : List Directive) : List Directive :=
  if directives.isEmpty then [⟨"", Level.error.verbosity⟩]
  else directives.mergeSort fun d e => d.target.length ≤ e.target.length

def rejection (text : String) : String := s!"warning: invalid logging spec '{text}', ignoring it"

def ofDirectives (text : List Char) : Filter :=
  let (rejected, directives) :=
    ((text.splitOn ',').filter (!·.isEmpty)).partitionMap fun entry =>
      match Directive.parse entry with
      | .error faulty => .inl (rejection faulty)
      | .ok directive => .inr directive
  { directives := sortDirectives directives, warnings := rejected }

def parse (setting : String) : Filter :=
  match setting.toList.splitOn '/' with
  | [directives] => ofDirectives directives
  | [directives, pattern] =>
    let filter := ofDirectives directives
    match Pattern.parse pattern with
    | .ok p => { filter with pattern := some p }
    | .error fault =>
      let warning := "warning: invalid regex filter - " ++ fault.report pattern
      { filter with warnings := filter.warnings ++ [warning] }
  | _ => { directives := sortDirectives [], warnings := [rejection setting ++ " (too many '/'s)"] }

/-- Without a setting a build with assertions tells more than one without. -/
def ofSetting (setting : Option String) (assertions : Bool := true) : Filter :=
  parse (setting.getD (if assertions then "dpll_sat=debug" else "dpll_sat=warn"))

def admits (f : Filter) (r : Record) : Bool :=
  match f.directives.reverse.find? (·.target.toList.isPrefixOf r.source.text.toList) with
  | some directive => r.level.verbosity ≤ directive.verbosity
  | none => false

def allows (f : Filter) (r : Record) : Bool :=
  f.admits r && f.pattern.all (·.foundIn r.message.toList)

def padRight (width : Nat) (text : String) : String :=
  text ++ String.ofList (List.replicate (width - text.length) ' ')

/-- Prints the records let through; sources are padded to the longest one printed so far. -/
def render (f : Filter) (records : List Record) : String :=
  let printOne := fun ((width, printed) : Nat × String) (r : Record) =>
    let width := max width r.source.text.length
    (width, printed ++
      s!" {padRight 5 r.level.text} {padRight width r.source.text} > {r.message}\n")
  ((records.filter f.allows).foldl printOne (0, "")).2

def journal (f : Filter) : Journal where
  opening := String.join (f.warnings.map (· ++ "\n"))
  render := f.render

end Filter

end ClausalSearch
