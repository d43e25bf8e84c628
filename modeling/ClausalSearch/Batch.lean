import ClausalSearch.Dimacs
import ClausalSearch.Directory
import ClausalSearch.Search.Basic

/-!
Batches and their files. Every formula is searched on its own, and its result line is the model's
text or empty. Reading is given as a function from paths to texts.
-/
namespace ClausalSearch

structure Solved where
  formula : Formula
  run : Run

def solveBatch (formulas : List Formula) : Except Fault (List Solved) :=
  formulas.mapM fun F => return ⟨F, ← solve F⟩

def outcomesText (batch : List Solved) : String :=
  String.join (batch.map fun solved => solved.run.line ++ "\n")

section Files

abbrev Reader := String → Except FileError String

inductive InputError where
  | unreadable (path : String) (cause : FileError)
  | format (error : FormatError)
  deriving DecidableEq, Repr

def InputError.diagnostic : InputError → Diagnostic
  | .unreadable path cause => ⟨s!"I/O error occurred while reading '{path}'", [cause.message]⟩
  | .format error => error.diagnostic

structure OutputError where
  path : String
  cause : FileError
  deriving DecidableEq, Repr

def OutputError.diagnostic (e : OutputError) : Diagnostic :=
  ⟨s!"I/O error occurred while writing results to '{e.path}'", [e.cause.message]⟩

def readFile (read : Reader) (format : List Char → Except FormatError α) (path : String) :
    Except InputError α := do
  let text ← (read path).mapError (.unreadable path)
  (format text.toList).mapError .format

def readBatchFile (read : Reader) (path : String) : Except InputError (List Formula) :=
  readFile read NamedFormat.readBatch path

def readDimacsFile (read : Reader) (path : String) : Except InputError Formula :=
  readFile read Dimacs.read path

def writeFile (d : Directory) (path text : String) : Except OutputError Directory :=
  (d.write path text).mapError (⟨path, ·⟩)

end Files

end ClausalSearch
