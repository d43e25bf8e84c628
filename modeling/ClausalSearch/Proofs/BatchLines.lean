import ClausalSearch.Journal
import ClausalSearch.Proofs.Blocks
import ClausalSearch.Proofs.PrintedModel

/-!
Batches from text to result lines. Every block of the text gives one line, in the order of the
blocks. The line of a model is not empty and has no line feed, so an empty line means that the
instance has no model, and the journal of the batch names exactly these instances. A line does not
depend on the other blocks.
-/
namespace ClausalSearch

variable {F : Formula} {run : Run} {formulas : List Formula} {batch : List Solved} {k : Nat}

section Line

variable (printable : F.Printable) (solved : solve F = .ok run)
include printable solved

theorem line_eq_empty_iff : run.line = "" ↔ ¬ F.Satisfiable := by
  obtain ⟨found, t, solves⟩ := solves_of_solve solved
  obtain ⟨answered, -⟩ := model_of_satisfiable solves
  rw [← answered, Run.line]
  cases answer : run.model with
  | none => simp
  | some m =>
    obtain ⟨rfl, legal⟩ := model_legal solves answer
    exact iff_of_false (text_ne_empty legal printable) (by simp)

theorem line_single : '\n' ∉ run.line.toList := by
  obtain ⟨found, t, solves⟩ := solves_of_solve solved
  rw [Run.line]
  cases answer : run.model with
  | none => exact List.not_mem_nil
  | some m =>
    obtain ⟨rfl, legal⟩ := model_legal solves answer
    exact NamedFormat.clauseText_single (trail_readable legal printable)

end Line

theorem solveBatch_total (formulas : List Formula) : ∃ batch, solveBatch formulas = .ok batch := by
  refine mapM_total fun F _ => ?_
  obtain ⟨run, found, t, solved, solves⟩ := solve_solves F
  exact ⟨⟨F, run⟩, by rw [solved]; rfl⟩

theorem solveBatch_at (solves : solveBatch formulas = .ok batch) (listed : formulas[k]? = some F) :
    ∃ run, solve F = .ok run ∧ batch[k]? = some ⟨F, run⟩ := by
  obtain ⟨solved, found, step⟩ := mapM_at solves listed
  obtain ⟨run, solved, step⟩ := bind_eq_ok.1 step
  cases step
  exact ⟨run, solved, found⟩

theorem solveBatch_singleton (solved : solve F = .ok run) : solveBatch [F] = .ok [⟨F, run⟩] := by
  refine mapM_eq_ok_iff.2 (.cons ?_ .nil)
  rw [solved]
  rfl

theorem solveBatch_single (printable : ∀ F ∈ formulas, F.Printable) :
    Ends (fun batch => ∀ solved ∈ batch, '\n' ∉ solved.run.line.toList) (fun _ => True)
      (solveBatch formulas) := by
  refine ends_mapM fun F member => ?_
  obtain ⟨run, found, t, solved, -⟩ := solve_solves F
  rw [solved]
  exact line_single (printable F member) solved

theorem toList_outcomesText (batch : List Solved) : (outcomesText batch).toList =
    (batch.map fun solved => solved.run.line.toList).flatMap (· ++ ['\n']) := by
  rw [outcomesText, String.toList_join, List.flatMap_map, List.flatMap_map]
  simp only [String.toList_append]
  rfl

def batchLog (batch : List Solved) : List String :=
  ((batchRecords batch).filter fun r => r.source = .batch).map Record.message

theorem numeral_append_inj {i k : Nat} {c d : Char} {xs ys : List Char}
    (first : c.isDigit = false) (second : d.isDigit = false)
    (same : (toString i).toList ++ c :: xs = (toString k).toList ++ d :: ys) : i = k ∧ c = d := by
  have digits (n : Nat) {e : Char} (ends : e.isDigit = false) (zs : List Char) :
      ((toString n).toList ++ e :: zs).takeWhile Char.isDigit = (toString n).toList := by
    rw [List.takeWhile_append_of_pos fun _ => isDigit_of_mem_numeral,
      List.takeWhile_cons_of_neg (by simp [ends]), List.append_nil]
  have numerals : (toString i).toList = (toString k).toList := by
    rw [← digits i first xs, same, digits k second ys]
  rw [numerals] at same
  have rest := List.append_cancel_left same
  rw [Nat.toString_eq_repr, Nat.toString_eq_repr, Nat.toList_repr, Nat.toList_repr] at numerals
  have numbers := congrArg (Nat.ofDigitChars 10 · 0) numerals
  simp only [Nat.ofDigitChars_toDigits (b := 10) (by decide) (by decide)] at numbers
  exact ⟨numbers, (List.cons.inj rest).1⟩

theorem search_records_silent (F : Formula) (run : Run) :
    (run.records F).filter (fun r => r.source = .batch) = [] := by
  simp [Run.records, List.filter_append, List.filter_map, Function.comp_def]

theorem batchLog_eq (batch : List Solved) : batchLog batch =
    s!"Solving {batch.length} instances" :: batch.zipIdx.flatMap fun (solved, index) =>
      s!"Instance {index}: {solved.formula.text}" ::
        if solved.run.isSatisfiable then [] else [s!"Instance {index} is unsatisfiable"] := by
  rw [batchLog, batchRecords, List.filter_cons_of_pos (by simp), List.map_cons,
    List.filter_flatMap, List.map_flatMap]
  congr 1
  apply List.flatMap_congr
  rintro ⟨solved, index⟩ -
  simp only [Solved.records, List.filter_append, List.filter_cons, search_records_silent]
  cases solved.run.isSatisfiable <;> simp

theorem mem_batchLog_iff : s!"Instance {k} is unsatisfiable" ∈ batchLog batch ↔
    ∃ solved, batch[k]? = some solved ∧ solved.run.isSatisfiable = false := by
  have named (index : Nat) : (s!"Instance {index} is unsatisfiable").toList =
      "Instance ".toList ++ ((toString index).toList ++ ' ' :: "is unsatisfiable".toList) := by
    simp [toString]
  have shown (index : Nat) (text : String) : (s!"Instance {index}: {text}").toList =
      "Instance ".toList ++ ((toString index).toList ++ ':' :: ' ' :: text.toList) := by
    simp [toString]
  rw [batchLog_eq, List.mem_cons, List.mem_flatMap]
  constructor
  · rintro (same | ⟨⟨solved, index⟩, placed, listed⟩)
    · have first := congrArg (·.toList.head?) same
      simp [toString] at first
    · rcases List.mem_cons.1 listed with same | unsolved
      -- a colon follows the number here, whatever the number is
      · rw [← String.toList_inj, named, shown] at same
        have marks := (numeral_append_inj (by decide) (by decide)
          (List.append_cancel_left same)).2
        exact absurd marks (by decide)
      · split at unsolved
        · cases unsolved
        · rename_i failed
          rw [List.mem_singleton, ← String.toList_inj, named, named] at unsolved
          obtain ⟨rfl, -⟩ := numeral_append_inj (by decide) (by decide)
            (List.append_cancel_left unsolved)
          exact ⟨solved, List.mk_mem_zipIdx_iff_getElem?.1 placed, by simpa using failed⟩
  · rintro ⟨solved, placed, failed⟩
    refine .inr ⟨(solved, k), List.mk_mem_zipIdx_iff_getElem?.2 placed, List.mem_cons_of_mem _ ?_⟩
    rw [if_neg (by simp [failed])]
    exact List.mem_singleton_self _

theorem unsatisfiable_logged_iff (solves : solveBatch formulas = .ok batch)
    (placed : formulas[k]? = some F) :
    s!"Instance {k} is unsatisfiable" ∈ batchLog batch ↔ ¬ F.Satisfiable := by
  obtain ⟨run, solved, found⟩ := solveBatch_at solves placed
  obtain ⟨success, t, explored⟩ := solves_of_solve solved
  rw [mem_batchLog_iff, ← (model_of_satisfiable explored).1, found]
  simp [Run.isSatisfiable]

theorem batch_lines_of_blocks {text : List Char} {formulas : List Formula}
    (read : NamedFormat.readBatch text = .ok formulas) :
    ∃ (batch : List Solved) (lines : List String), solveBatch formulas = .ok batch ∧
      (outcomesText batch).toList.splitOn '\n' = lines.map String.toList ++ [[]] ∧
      lines.length = formulas.length ∧ formulas.length = (NamedFormat.blocks text).length ∧
      (NamedFormat.blocks text).flatten =
        (Text.numberedLines text).filter (!NamedFormat.isSeparator ·) ∧
      ∀ (k : Nat) F block line, formulas[k]? = some F →
        (NamedFormat.blocks text)[k]? = some block → lines[k]? = some line →
          (line = "" ↔ ¬ F.Satisfiable) ∧
          (s!"Instance {k} is unsatisfiable" ∈ batchLog batch ↔ ¬ F.Satisfiable) ∧
          NamedFormat.MaximalRun (Text.numberedLines text) block ∧
          NamedFormat.Retells (NamedFormat.blockText block) block ∧
          ∀ alone, NamedFormat.Retells alone block → ∃ single,
            NamedFormat.readBatch alone = .ok [F] ∧ solveBatch [F] = .ok single ∧
            outcomesText single = line ++ "\n" := by
  have printable := of_ends (NamedFormat.readBatch_printable text) read
  obtain ⟨batch, solves⟩ := solveBatch_total formulas
  have single := of_ends (solveBatch_single printable) solves
  refine ⟨batch, batch.map (·.run.line), solves, ?_, ?_, NamedFormat.readBatch_length read,
    NamedFormat.blocks_flatten text, ?_⟩
  · rw [toList_outcomesText, Text.splitOn_of_ended (List.forall_mem_map.2 single), List.map_map]
    rfl
  · rw [List.length_map, mapM_length solves]
  · intro k F block line placed listed lined
    obtain ⟨run, solved, found⟩ := solveBatch_at solves placed
    rw [List.getElem?_map, found] at lined
    cases lined
    have inside := List.mem_of_getElem? placed
    have member := List.mem_of_getElem? listed
    refine ⟨line_eq_empty_iff (printable F inside) solved, unsatisfiable_logged_iff solves placed,
      NamedFormat.maximalRun_of_mem_blocks member, NamedFormat.blockText_retells member,
      fun alone retells => ?_⟩
    have again := NamedFormat.readBatch_of_retells read listed placed retells
    exact ⟨[⟨F, run⟩], again, solveBatch_singleton solved, rfl⟩

/-- Three instances, of which the second has no model. -/
def threeBlocks : List Char := "a b\n-a b\na -b\n\na\n-a\n\n-x\n".toList

theorem three_blocks_lines : ∃ formulas batch lines F,
    NamedFormat.readBatch threeBlocks = .ok formulas ∧ solveBatch formulas = .ok batch ∧
    (outcomesText batch).toList.splitOn '\n' = lines.map String.toList ++ [[]] ∧
    lines = ["a b", "", "-x"] ∧ formulas[1]? = some F ∧ ¬ F.Satisfiable ∧
    "Instance 1 is unsatisfiable" ∈ batchLog batch ∧
    ∃ single, NamedFormat.readBatch "a\n-a".toList = .ok [F] ∧ solveBatch [F] = .ok single ∧
      outcomesText single = "\n" := by
  have written : ((NamedFormat.readBatch threeBlocks).bind fun formulas =>
      (solveBatch formulas).mapError .fault).map outcomesText = .ok "a b\n\n-x\n" := by cbv
  cases read : NamedFormat.readBatch threeBlocks with
  | error e =>
    rw [read] at written
    cases written
  | ok formulas =>
    obtain ⟨batch, lines, solves, split, sized, blocks, -, each⟩ := batch_lines_of_blocks read
    rw [read, Except.bind, solves] at written
    have text : outcomesText batch = "a b\n\n-x\n" := Except.ok.inj written
    have same : lines = ["a b", "", "-x"] := by
      rw [text] at split
      have pieces : "a b\n\n-x\n".toList.splitOn '\n' =
          ["a b", "", "-x"].map String.toList ++ [[]] := by decide
      rw [pieces] at split
      have injective : Function.Injective String.toList := fun _ _ => String.toList_inj.1
      exact (List.map_injective_iff.2 injective (List.append_cancel_right split)).symm
    subst same
    have listed : (NamedFormat.blocks threeBlocks)[1]? = some [(['a'], 5), (['-', 'a'], 6)] := by
      decide +kernel
    have inside : 1 < formulas.length := by rw [← sized]; decide
    have placed : formulas[1]? = some formulas[1] := List.getElem?_eq_getElem inside
    obtain ⟨empty, logged, -, -, alone⟩ := each 1 _ _ "" placed listed rfl
    have unsatisfiable := empty.1 rfl
    have retells : NamedFormat.Retells "a\n-a".toList [(['a'], 5), (['-', 'a'], 6)] := by
      decide +kernel
    exact ⟨formulas, batch, _, _, rfl, solves, split, rfl, placed, unsatisfiable,
      logged.2 unsatisfiable, alone _ retells⟩

end ClausalSearch
