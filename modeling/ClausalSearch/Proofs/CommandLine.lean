import ClausalSearch.Command
import ClausalSearch.Proofs.BatchLines
import ClausalSearch.Proofs.Files

/-!
The program as a whole. A run that fails has printed nothing and has left every file as it was,
even a file that it was told to overwrite. An output file takes exactly the text that is printed
without one, and a check answers for the formula that its file holds.
-/
namespace ClausalSearch

variable {args rest : List String} {d after : Directory} {command : Command}
  {answer : Command.Answer} {e : CommandError} {program input out path : String} {read : Reader}
  {journal : Journal} {F : Formula} {run : Run}

theorem readFile_eq_ok_iff {α : Type} {format : List Char → Except FormatError α} {content : α} :
    readFile read format path = .ok content ↔
      ∃ text, read path = .ok text ∧ format text.toList = .ok content := by
  simp only [readFile, bind_eq_ok, mapError_eq_ok_iff]

namespace Command

theorem answer_solve_eq_ok_iff (output : Option String) :
    (solve input output).answer program read = .ok answer ↔ ∃ formulas batch,
      readBatchFile read input = .ok formulas ∧ solveBatch formulas = .ok batch ∧
        { text := outcomesText batch, records := batchRecords batch } = answer := by
  simp only [Command.answer, bind_eq_ok, mapError_eq_ok_iff, pure_eq_ok_iff, exists_and_left]

theorem answer_check_eq_ok_iff : (check input).answer program read = .ok answer ↔ ∃ F run,
    readDimacsFile read input = .ok F ∧ ClausalSearch.solve F = .ok run ∧
      { text := checkText run, records := run.records F } = answer := by
  simp only [Command.answer, bind_eq_ok, mapError_eq_ok_iff, pure_eq_ok_iff, exists_and_left]

theorem answer_check_total (file : readDimacsFile read input = .ok F) :
    ∃ run, ClausalSearch.solve F = .ok run ∧
      (check input).answer program read =
        .ok { text := checkText run, records := run.records F } := by
  obtain ⟨run, found, t, solved, -⟩ := solve_solves F
  exact ⟨run, solved, answer_check_eq_ok_iff.2 ⟨F, run, file, solved, rfl⟩⟩

theorem checkText_of_solve (solved : ClausalSearch.solve F = .ok run) :
    (checkText run = "UNSAT\n" ↔ ¬ F.Satisfiable) ∧
      (F.Satisfiable → checkText run = s!"SAT {run.line}\n") := by
  obtain ⟨found, t, solves⟩ := solves_of_solve solved
  have answered : run.isSatisfiable ↔ F.Satisfiable := (model_of_satisfiable solves).1
  unfold checkText
  rw [← answered]
  split
  · rename_i success
    have differs : s!"SAT {run.line}\n" ≠ "UNSAT\n" := by
      intro same
      have first := congrArg (·.toList.head?) same
      simp [toString] at first
    exact ⟨iff_of_false differs (not_not_intro success), fun _ => rfl⟩
  · rename_i failure
    exact ⟨iff_of_true rfl failure, fun success => absurd success failure⟩

end Command

/-- Everything is computed before the first byte is written. -/
theorem run_atomic (failed : (runProgram journal args d).exit ≠ 0) :
    (runProgram journal args d).stdout = "" ∧ (runProgram journal args d).directory = d := by
  unfold runProgram at failed ⊢
  -- everything is computed before the first byte is written
  cases parsed : Command.ofArgs args.tail with
  | error e => exact ⟨rfl, rfl⟩
  | ok command =>
    simp only [parsed] at failed ⊢
    cases answered : command.answer (programName args) d.readText with
    | error e => exact ⟨rfl, rfl⟩
    | ok answer =>
      simp only [answered] at failed ⊢
      cases named : command.output? with
      | none =>
        rw [named] at failed
        exact absurd rfl failed
      | some path =>
        simp only [named] at failed ⊢
        cases written : writeFile d path answer.text with
        | error e => exact ⟨rfl, rfl⟩
        | ok after =>
          rw [written] at failed
          exact absurd rfl failed

section Parsed

variable (journal : Journal) (parsed : Command.ofArgs args = .ok command)
include parsed

theorem run_failed (failed : command.answer program d.readText = .error e) :
    ∃ errors, runProgram journal (program :: args) d = ⟨1, "", errors, d⟩ := by
  have named : programName (program :: args) = program := rfl
  unfold runProgram
  simp only [List.tail_cons, parsed, named, failed]
  exact ⟨_, rfl⟩

theorem run_printed (answered : command.answer program d.readText = .ok answer)
    (printed : command.output? = none) :
    ∃ errors, runProgram journal (program :: args) d = ⟨0, answer.text, errors, d⟩ := by
  have named : programName (program :: args) = program := rfl
  unfold runProgram
  simp only [List.tail_cons, parsed, named, answered, printed]
  exact ⟨_, rfl⟩

theorem run_stored (answered : command.answer program d.readText = .ok answer)
    (stored : command.output? = some path) (written : d.write path answer.text = .ok after) :
    ∃ errors, runProgram journal (program :: args) d = ⟨0, "", errors, after⟩ := by
  have named : programName (program :: args) = program := rfl
  unfold runProgram writeFile
  simp only [List.tail_cons, parsed, named, answered, stored, written, Except.mapError]
  exact ⟨_, rfl⟩

end Parsed

/-- The second run stores under the name what the first one prints. -/
structure Stores (d : Directory) (name : String) (printed stored : Result) : Prop where
  success : stored.exit = 0 ↔ printed.exit = 0
  silent : stored.stdout = ""
  kept : printed.directory = d
  content : stored.exit = 0 → ∀ other, stored.directory.get? other =
    if other = name then some printed.stdout.toUTF8 else d.get? other

theorem solve_stores (journal : Journal) (flat : FlatName out) :
    Stores d out (runProgram journal [program, "solve", input] d)
      (runProgram journal (program :: "solve" :: input :: out :: rest) d) := by
  have single : Command.ofArgs ["solve", input] = .ok (.solve input none) := rfl
  have double : Command.ofArgs ("solve" :: input :: out :: rest) = .ok (.solve input (some out)) :=
    rfl
  -- the answer is the same for both, since it is computed without regard to where it goes
  cases answered : (Command.solve input none).answer program d.readText with
  | error e =>
    obtain ⟨_, printed⟩ := run_failed journal single answered
    obtain ⟨_, stored⟩ := run_failed journal double answered
    rw [printed, stored]
    exact ⟨Iff.rfl, rfl, rfl, fun success => absurd success Nat.one_ne_zero⟩
  | ok answer =>
    have written := Directory.write_flat (d := d) flat answer.text
    obtain ⟨_, printed⟩ := run_printed journal single answered rfl
    obtain ⟨_, stored⟩ := run_stored journal double answered rfl written
    rw [printed, stored]
    exact ⟨Iff.rfl, rfl, rfl, fun _ other => Directory.get?_put⟩

structure Checks (d : Directory) (input : String) (checked : Result) : Prop where
  kept : checked.directory = d
  success : checked.exit = 0 ↔
    ∃ text F, d.readText input = .ok text ∧ Dimacs.read text.toList = .ok F
  verdict : ∀ text F, d.readText input = .ok text → Dimacs.read text.toList = .ok F →
    ∃ run, solve F = .ok run ∧ (checked.stdout = "UNSAT\n" ↔ ¬ F.Satisfiable) ∧
      (F.Satisfiable → checked.stdout = s!"SAT {run.line}\n")

theorem check_checks (journal : Journal) :
    Checks d input (runProgram journal (program :: "check" :: input :: rest) d) := by
  have parsed : Command.ofArgs ("check" :: input :: rest) = .ok (.check input) := rfl
  cases answered : (Command.check input).answer program d.readText with
  | error e =>
    have rejected (text : String) (F : Formula) (readable : d.readText input = .ok text) :
        Dimacs.read text.toList ≠ .ok F := by
      intro accepted
      have file := readFile_eq_ok_iff.2 ⟨text, readable, accepted⟩
      obtain ⟨run, -, success⟩ := Command.answer_check_total file
      rw [answered] at success
      cases success
    obtain ⟨_, failed⟩ := run_failed journal parsed answered
    rw [failed]
    refine ⟨rfl, iff_of_false Nat.one_ne_zero ?_, fun text F readable accepted => ?_⟩
    · rintro ⟨text, F, readable, accepted⟩
      exact rejected text F readable accepted
    · exact absurd accepted (rejected text F readable)
  | ok answer =>
    obtain ⟨G, run, file, solved, same⟩ := Command.answer_check_eq_ok_iff.1 answered
    subst same
    obtain ⟨known, contents, format⟩ := readFile_eq_ok_iff.1 file
    obtain ⟨_, printed⟩ := run_printed journal parsed answered rfl
    rw [printed]
    refine ⟨rfl, iff_of_true rfl ⟨known, G, contents, format⟩, ?_⟩
    intro text F readable accepted
    rw [contents] at readable
    cases readable
    rw [format] at accepted
    cases accepted
    exact ⟨run, solved, Command.checkText_of_solve solved⟩

theorem program_atomic_and_exact (journal : Journal) (d : Directory) :
    (∀ args, (runProgram journal args d).exit ≠ 0 →
      (runProgram journal args d).stdout = "" ∧ (runProgram journal args d).directory = d) ∧
    (∀ program input out rest, FlatName out →
      Stores d out (runProgram journal [program, "solve", input] d)
        (runProgram journal (program :: "solve" :: input :: out :: rest) d)) ∧
    ∀ program input rest,
      Checks d input (runProgram journal (program :: "check" :: input :: rest) d) :=
  ⟨fun _ => run_atomic, fun _ _ _ _ => solve_stores journal, fun _ _ _ => check_checks journal⟩

def batchAlone : Directory := ⟨[("in", "a\n\nb\n-b\n".toUTF8)]⟩

def Journal.silent : Journal where
  opening := ""
  render := fun _ => ""

theorem batch_overwritten_or_kept : FlatName "in" ∧
    (runProgram .silent ["dpll-sat", "solve", "in", "in"] batchAlone).exit = 0 ∧
    (runProgram .silent ["dpll-sat", "solve", "in", "in"] batchAlone).directory.get? "in" =
      some "a\n\n".toUTF8 ∧
    (runProgram .silent ["dpll-sat", "solve", "out", "in"] batchAlone).exit ≠ 0 ∧
    (runProgram .silent ["dpll-sat", "solve", "out", "in"] batchAlone).directory = batchAlone := by
  have flat : FlatName "in" := ⟨by decide, by decide, by decide, by decide, by decide⟩
  have written : outcomesText <$> (NamedFormat.readBatch "a\n\nb\n-b\n".toList >>= fun formulas =>
      (solveBatch formulas).mapError .fault) = .ok "a\n\n" := by cbv
  obtain ⟨batch, solved, text⟩ := map_eq_ok_iff.1 written
  obtain ⟨formulas, accepted, solved⟩ := bind_eq_ok.1 solved
  have readable : batchAlone.readText "in" = .ok "a\n\nb\n-b\n" :=
    Directory.readText_flat flat rfl
  have parsed : Command.ofArgs ["solve", "in"] = .ok (.solve "in" none) := rfl
  have answered : (Command.solve "in" none).answer "dpll-sat" batchAlone.readText =
      .ok { text := outcomesText batch, records := batchRecords batch } :=
    (Command.answer_solve_eq_ok_iff none).2 ⟨formulas, batch,
      readFile_eq_ok_iff.2 ⟨_, readable, accepted⟩, mapError_eq_ok_iff.1 solved, rfl⟩
  obtain ⟨_, printed⟩ := run_printed .silent parsed answered rfl
  obtain ⟨atomic, stores, -⟩ := program_atomic_and_exact .silent batchAlone
  have stored := stores "dpll-sat" "in" "in" [] flat
  have success := stored.success.2 (by rw [printed])
  have failure : (runProgram .silent ["dpll-sat", "solve", "out", "in"] batchAlone).exit ≠ 0 := by
    decide
  refine ⟨flat, success, ?_, failure, (atomic _ failure).2⟩
  rw [stored.content success, if_pos rfl, printed, text]

end ClausalSearch
