import ClausalSearch.Proofs.RoundTrip
import Mathlib

/-!
Line ends. A text whose line feeds have become pairs of carriage return and line feed is read as
before, and so is a text with one more line feed at its end. What stands on a line is judged by its
tokens, and a carriage return is a blank. Only what the named format quotes in an error may get
another carriage return, which needs one in the text to begin with.
-/
namespace ClausalSearch

namespace Text

variable {text line front : List Char} {c : Char}

def crlf (text : List Char) : List Char :=
  text.flatMap fun c => if c = '\n' then ['\r', '\n'] else [c]

theorem lines_induction {motive : List Char → Prop} (last : ∀ line, '\n' ∉ line → motive line)
    (cons : ∀ line rest, '\n' ∉ line → motive rest → motive (line ++ '\n' :: rest))
    (text : List Char) : motive text := by
  suffices every : ∀ front, '\n' ∉ front → motive (front ++ text) from every [] (by simp)
  induction text with
  | nil =>
    intro front single
    rw [List.append_nil]
    exact last front single
  | cons c text ih =>
    intro front single
    by_cases feed : c = '\n'
    · subst feed
      exact cons front text single (ih [] (by simp))
    · rw [List.append_cons]
      apply ih
      simp [single, Ne.symm feed]

theorem crlf_of_single (single : '\n' ∉ line) : crlf line = line := by
  induction line with
  | nil => rfl
  | cons c line ih =>
    obtain ⟨other, later⟩ := not_or.1 (mt List.mem_cons.2 single)
    rw [crlf, List.flatMap_cons, if_neg (Ne.symm other), ← crlf, ih later, List.singleton_append]

theorem crlf_append (front rest : List Char) : crlf (front ++ rest) = crlf front ++ crlf rest :=
  List.flatMap_append

theorem crlf_line (single : '\n' ∉ line) (rest : List Char) :
    crlf (line ++ '\n' :: rest) = (line ++ ['\r']) ++ '\n' :: crlf rest := by
  rw [crlf_append, crlf_of_single single, List.append_assoc]
  rfl

theorem lines_cons (single : '\n' ∉ line) (rest : List Char) :
    lines (line ++ '\n' :: rest) = chomp line :: lines rest := by
  apply lines_append
  intro c member
  rw [beq_eq_false_iff_ne]
  rintro rfl
  exact single member

theorem lines_crlf_cons (single : '\n' ∉ line) (rest : List Char) :
    lines (crlf (line ++ '\n' :: rest)) = line :: lines (crlf rest) := by
  rw [crlf_line single, lines_cons (by simp [single])]
  simp [chomp]

theorem chomp_of_no_return (absent : '\r' ∉ line) : chomp line = line := by
  rw [chomp, if_neg]
  intro ends
  exact absent (List.mem_of_getLast? ends)

theorem lines_crlf (absent : '\r' ∉ text) : lines (crlf text) = lines text := by
  induction text using lines_induction with
  | last line single => rw [crlf_of_single single]
  | cons line rest single ih =>
    simp only [List.mem_append, List.mem_cons, not_or] at absent
    rw [lines_crlf_cons single, lines_cons single, chomp_of_no_return absent.1, ih absent.2.2]

section Trimming

theorem trim_concat (blank : isBlank c = true) (line : List Char) :
    trim (line ++ [c]) = trim line := by
  rw [trim, trim, List.dropWhile_append]
  split
  · rename_i dropped
    rw [List.isEmpty_iff.1 dropped, List.dropWhile_cons_of_pos blank]
    rfl
  · rw [List.reverse_append, List.reverse_singleton, List.singleton_append,
      List.dropWhile_cons_of_pos blank]

theorem trim_chomp (line : List Char) : trim (chomp line) = trim line := by
  rw [chomp]
  split
  · rename_i ends
    obtain ⟨front, rfl⟩ := List.getLast?_eq_some_iff.1 ends
    rw [List.dropLast_concat, trim_concat (by decide)]
  · rfl

theorem trimmed_crlf (text : List Char) :
    (lines (crlf text)).map trim = (lines text).map trim := by
  induction text using lines_induction with
  | last line single => rw [crlf_of_single single]
  | cons line rest single ih =>
    rw [lines_crlf_cons single, lines_cons single, List.map_cons, List.map_cons, trim_chomp, ih]

theorem trimmed_ended (text : List Char) :
    (lines (text ++ ['\n'])).map trim = (lines text).map trim ∨
      (lines (text ++ ['\n'])).map trim = (lines text).map trim ++ [[]] := by
  induction text using lines_induction with
  | last line single =>
    rw [lines_cons single]
    by_cases empty : line = []
    · subst empty
      exact .inr rfl
    · rw [lines_of_single empty single, List.map_cons, trim_chomp]
      exact .inl rfl
  | cons line rest single ih =>
    rw [List.append_assoc, List.cons_append, lines_cons single, lines_cons single, List.map_cons,
      List.map_cons, List.cons_append]
    exact ih.imp (congrArg _) (congrArg _)

end Trimming

theorem tokens_concat_blank (blank : isBlank c = true) (line : List Char) :
    tokens (line ++ [c]) = tokens line := by
  have split := tokens_append blank line []
  rw [split]
  exact List.append_nil _

end Text

namespace NamedFormat

variable {F : Formula} {text other line : List Char} {formulas : List Formula}

theorem rows_of_single (single : '\n' ∉ line) : rows line = [Text.tokens line] := by
  rw [rows, List.splitOn_eq_singleton single]
  rfl

theorem rows_crlf (text : List Char) : rows (Text.crlf text) = rows text := by
  induction text using Text.lines_induction with
  | last line single => rw [Text.crlf_of_single single]
  | cons line rest single ih =>
    have returned : '\n' ∉ line ++ ['\r'] := by simp [single]
    rw [Text.crlf_line single, rows_append, rows_append, ih, rows_of_single returned,
      rows_of_single single, Text.tokens_concat_blank (by decide)]

theorem runs_ended (text : List Char) : runs (rows (text ++ ['\n'])) = runs (rows text) := by
  rw [rows_append]
  exact (runs_append_nil (rows text) []).trans (List.append_nil _)

section Readers

theorem readInstance_congr (same : runs (rows other) = runs (rows text)) :
    readInstance other = .ok F ↔ readInstance text = .ok F := by
  rw [readInstance_eq, readInstance_eq, bind_eq_ok, bind_eq_ok]
  simp only [readBlocks_eq_ok_iff, same]

theorem readBatch_congr (same : runs (rows other) = runs (rows text)) :
    readBatch other = .ok formulas ↔ readBatch text = .ok formulas := by
  rw [readBatch_eq, readBatch_eq, bind_eq_ok, bind_eq_ok]
  simp only [readBlocks_eq_ok_iff, same]

theorem readInstance_of_lines (same : Text.lines other = Text.lines text) :
    readInstance other = readInstance text := by
  rw [readInstance, readInstance, Text.numberedLines, Text.numberedLines, same]

theorem readBatch_of_lines (same : Text.lines other = Text.lines text) :
    readBatch other = readBatch text := by
  rw [readBatch, readBatch, Text.numberedLines, Text.numberedLines, same]

end Readers

end NamedFormat

namespace Dimacs

variable {text other : List Char}

theorem read_of_trimmed
    (same : (Text.lines other).map Text.trim = (Text.lines text).map Text.trim) :
    read other = read text := by
  rw [read, read, same]

theorem read_of_trimmed_concat
    (same : (Text.lines other).map Text.trim = (Text.lines text).map Text.trim ++ [[]]) :
    read other = read text := by
  rw [read, read, same, List.dropWhile_append]
  cases (List.map Text.trim (Text.lines text)).dropWhile (·.head? != some 'p') with
  | nil => rfl
  | cons problem body =>
    have skipped : isSkipped [] = true := rfl
    simp [skipped]

theorem read_crlf (text : List Char) : read (Text.crlf text) = read text :=
  read_of_trimmed (Text.trimmed_crlf text)

theorem read_ended (text : List Char) : read (text ++ ['\n']) = read text := by
  rcases Text.trimmed_ended text with same | longer
  · exact read_of_trimmed same
  · exact read_of_trimmed_concat longer

end Dimacs

/-- Both texts are read as the same formulas, or neither is; DIMACS errors are the same as well. -/
structure ReadAlike (text other : List Char) : Prop where
  instances : ∀ F, NamedFormat.readInstance other = .ok F ↔ NamedFormat.readInstance text = .ok F
  batches : ∀ formulas,
    NamedFormat.readBatch other = .ok formulas ↔ NamedFormat.readBatch text = .ok formulas
  dimacs : Dimacs.read other = Dimacs.read text

theorem readAlike_of_runs {text other : List Char}
    (same : NamedFormat.runs (NamedFormat.rows other) = NamedFormat.runs (NamedFormat.rows text))
    (dimacs : Dimacs.read other = Dimacs.read text) : ReadAlike text other where
  instances := fun _ => NamedFormat.readInstance_congr same
  batches := fun _ => NamedFormat.readBatch_congr same
  dimacs := dimacs

theorem line_ends_immaterial (text : List Char) :
    ('\r' ∉ text →
      NamedFormat.readInstance (Text.crlf text) = NamedFormat.readInstance text ∧
      NamedFormat.readBatch (Text.crlf text) = NamedFormat.readBatch text ∧
      Dimacs.read (Text.crlf text) = Dimacs.read text) ∧
    ReadAlike text (Text.crlf text) ∧ ReadAlike text (text ++ ['\n']) := by
  have rows := congrArg NamedFormat.runs (NamedFormat.rows_crlf text)
  refine ⟨?_, readAlike_of_runs rows (Dimacs.read_crlf text),
    readAlike_of_runs (NamedFormat.runs_ended text) (Dimacs.read_ended text)⟩
  intro absent
  have same := Text.lines_crlf absent
  exact ⟨NamedFormat.readInstance_of_lines same, NamedFormat.readBatch_of_lines same,
    Dimacs.read_crlf text⟩

def faultyText : List Char := "a -b\n\n b --c\nb".toList

/-- Line ends of both kinds, a line with two carriage returns, and one that is not ended. -/
def mixedText : List Char := "é -b\r\r\n\r\nb\n-é\r".toList

def headedText : List Char := "c\r\np cnf 2 2\n1 -2 0\r\r\n\n 2 0\r".toList

theorem faulty_and_mixed_read_alike :
    ('\r' ∉ faultyText ∧ ∀ text ∈ [faultyText, Text.crlf faultyText],
      NamedFormat.readInstance text =
        .error (.malformedLiteral 3 " b --c" (.invalidName "-c")) ∧
      NamedFormat.readBatch text = .error (.malformedLiteral 3 " b --c" (.invalidName "-c")) ∧
      Dimacs.read text = .error .malformedProblemLine) ∧
    (∃ F, F.namedClauses = [[⟨"é", true⟩, ⟨"b", false⟩], [⟨"b", true⟩], [⟨"é", false⟩]] ∧
      ∀ text ∈ [mixedText, Text.crlf mixedText, mixedText ++ ['\n']],
        NamedFormat.readInstance text = .ok F) ∧
    (∃ formulas, formulas.map Formula.namedClauses =
        [[[⟨"é", true⟩, ⟨"b", false⟩]], [[⟨"b", true⟩], [⟨"é", false⟩]]] ∧
      ∀ text ∈ [mixedText, Text.crlf mixedText, mixedText ++ ['\n']],
        NamedFormat.readBatch text = .ok formulas) ∧
    ∃ F, F.namedClauses = [[⟨"1", true⟩, ⟨"2", false⟩], [⟨"2", true⟩]] ∧
      ∀ text ∈ [headedText, Text.crlf headedText, headedText ++ ['\n']],
        Dimacs.read text = .ok F := by
  have absent : '\r' ∉ faultyText := by decide
  obtain ⟨sameInstance, sameBatch, sameDimacs⟩ := (line_ends_immaterial faultyText).1 absent
  obtain ⟨-, returned, ended⟩ := line_ends_immaterial mixedText
  obtain ⟨-, headedReturned, headedEnded⟩ := line_ends_immaterial headedText
  refine ⟨⟨absent, ?_⟩, ?_, ?_, ?_⟩
  · have instances : NamedFormat.readInstance faultyText =
        .error (.malformedLiteral 3 " b --c" (.invalidName "-c")) := by cbv
    have batch : NamedFormat.readBatch faultyText =
        .error (.malformedLiteral 3 " b --c" (.invalidName "-c")) := by cbv
    have headless : Dimacs.read faultyText = .error .malformedProblemLine := by cbv
    simp [instances, batch, headless, sameInstance, sameBatch, sameDimacs]
  · have named : (NamedFormat.readInstance mixedText).map Formula.namedClauses =
        .ok [[⟨"é", true⟩, ⟨"b", false⟩], [⟨"b", true⟩], [⟨"é", false⟩]] := by cbv
    obtain ⟨F, read, same⟩ := map_eq_ok_iff.1 named
    exact ⟨F, same, by simp [read, (returned.instances F).2 read, (ended.instances F).2 read]⟩
  · have named : (NamedFormat.readBatch mixedText).map (·.map Formula.namedClauses) =
        .ok [[[⟨"é", true⟩, ⟨"b", false⟩]], [[⟨"b", true⟩], [⟨"é", false⟩]]] := by cbv
    obtain ⟨formulas, read, same⟩ := map_eq_ok_iff.1 named
    exact ⟨formulas, same,
      by simp [read, (returned.batches formulas).2 read, (ended.batches formulas).2 read]⟩
  · have named : (Dimacs.read headedText).map Formula.namedClauses =
        .ok [[⟨"1", true⟩, ⟨"2", false⟩], [⟨"2", true⟩]] := by cbv
    obtain ⟨F, read, same⟩ := map_eq_ok_iff.1 named
    exact ⟨F, same, by simp [read, headedReturned.dimacs, headedEnded.dimacs]⟩

/-- A carriage return of the text itself may be quoted where it ends no line any more. -/
example :
    NamedFormat.readInstance "--c\r\n".toList =
      .error (.malformedLiteral 1 "--c" (.invalidName "-c")) ∧
    NamedFormat.readInstance (Text.crlf "--c\r\n".toList) =
      .error (.malformedLiteral 1 "--c\r" (.invalidName "-c")) :=
  ⟨rfl, rfl⟩

end ClausalSearch
