import ClausalSearch.Proofs.Reading
import ClausalSearch.Proofs.Satisfiability

/-!
No fault is ever met from a text on. Reading ends in formulas or in an error of the text, a search
from the empty assignment ends, and every variable that it logs or leaves bound has a name.
-/
namespace ClausalSearch

variable {F : Formula} {s t u w : State} {l : Literal} {reason : Reason}

theorem name_total {u : Nat} (inside : u < F.numVariables) : ∃ name, F.name u = .ok name := by
  refine ⟨F.names[u], ?_⟩
  rw [Formula.name, Array.getElem?_eq_getElem inside]

theorem clause_named {c : Clause} (member : c ∈ F.clauses) :
    ∀ l ∈ c.literals, ∃ name, F.name l.var = .ok name :=
  fun l inside => name_total (F.covered c member l inside)

def State.LogInside (F : Formula) (s : State) : Prop :=
  ∀ e ∈ s.log, e.literal.var < F.numVariables

theorem var_lt_of_bind {b : Assignment} (canonical : s.Canonical F)
    (bound : s.assignment.bind l = .ok b) : l.var < F.numVariables := by
  rw [← Assignment.size_of_legal canonical.legal]
  exact Assignment.open_lt_size (Assignment.open_of_bind bound)

theorem opens_log_inside (canonical : s.Canonical F) (opened : Opens F s reason l t)
    (inside : s.LogInside F) : t.LogInside F := by
  unfold State.LogInside
  rw [opened.log]
  exact List.forall_mem_cons.2 ⟨var_lt_of_bind canonical opened.bound, inside⟩

theorem turns_log_inside (canonical : s.Canonical F) (turned : Turns s l u w)
    (inside : u.LogInside F) : w.LogInside F := by
  unfold State.LogInside
  rw [turned.log]
  exact List.forall_mem_cons.2 ⟨var_lt_of_bind canonical turned.bound, inside⟩

theorem explores_log_inside {found : Bool} (canonical : s.Canonical F)
    (explored : Explores F s found t) (inside : s.LogInside F) : t.LogInside F := by
  induction explored with
  | settled verdict => exact inside
  | found opened below ih | abandoned opened committed below ih =>
    exact ih (opens_canonical canonical opened) (opens_log_inside canonical opened inside)
  | flipped opened first turned second first_ih second_ih
  | exhausted opened first turned second first_ih second_ih =>
    have between := first_ih (opens_canonical canonical opened)
      (opens_log_inside canonical opened inside)
    exact second_ih (turns_canonical canonical turned) (turns_log_inside canonical turned between)

theorem events_inside {run : Run} {found : Bool} (solves : Solves F run found t) :
    ∀ e ∈ run.events, e.literal.var < F.numVariables := by
  intro e member
  rw [solves.events, List.mem_reverse] at member
  have start : (State.initial F).LogInside F := by
    intro e member
    cases member
  exact explores_log_inside (State.initial_canonical F) solves.explored start e member

theorem events_named {run : Run} {found : Bool} (solves : Solves F run found t) :
    ∀ e ∈ run.events, ∃ name, F.name e.literal.var = .ok name :=
  fun e member => name_total (events_inside solves e member)

theorem trail_named {run : Run} {m : Model} (solved : solve F = .ok run)
    (answer : run.model = some m) :
    m.formula = F ∧ ∀ l ∈ m.trail, ∃ name, F.name l.var = .ok name := by
  obtain ⟨found, t, solves⟩ := solves_of_solve solved
  obtain ⟨formula, legal⟩ := model_legal solves answer
  exact ⟨formula, fun l member => name_total (Assignment.trail_lt_of_legal legal l member)⟩

theorem read_and_solve_faultless :
    (∀ text fault, NamedFormat.readInstance text ≠ .error (.fault fault) ∧
      NamedFormat.readBatch text ≠ .error (.fault fault) ∧
      Dimacs.read text ≠ .error (.fault fault)) ∧
    (∀ clauses, DistinctNames clauses → ∃ F, Formula.ofNamed clauses = .ok F) ∧
    ∀ F : Formula, (∀ c ∈ F.clauses, ∀ l ∈ c.literals, ∃ name, F.name l.var = .ok name) ∧
      ∃ run, solve F = .ok run ∧
        (∀ e ∈ run.events, ∃ name, F.name e.literal.var = .ok name) ∧
        ∀ m, run.model = some m →
          m.formula = F ∧ ∀ l ∈ m.trail, ∃ name, F.name l.var = .ok name := by
  refine ⟨fun text fault => ⟨?_, ?_, ?_⟩, fun clauses distinct => ofNamed_total distinct,
    fun F => ⟨fun c member => clause_named member, ?_⟩⟩
  · exact not_fault_of_ends (NamedFormat.readInstance_ends text) fault
  · exact not_fault_of_ends (NamedFormat.readBatch_ends text) fault
  · exact not_fault_of_ends (Dimacs.read_ends text) fault
  · obtain ⟨run, found, t, solved, solves⟩ := solve_solves F
    exact ⟨run, solved, events_named solves, fun m answer => trail_named solved answer⟩

/-- A repeated literal, a blank line, and a decision that has to be turned. -/
def turnedText : List Char := "y x x\n-x y\n\n-x -y z\np -y\n-z -x".toList

def turnedClauses : List (List NamedLiteral) :=
  [[⟨"y", true⟩, ⟨"x", true⟩], [⟨"x", false⟩, ⟨"y", true⟩],
    [⟨"x", false⟩, ⟨"y", false⟩, ⟨"z", true⟩], [⟨"p", true⟩, ⟨"y", false⟩],
    [⟨"z", false⟩, ⟨"x", false⟩]]

def turnedFormula : Formula where
  names := #["p", "x", "y", "z"]
  clauses := [⟨[⟨2, true⟩, ⟨1, true⟩], by decide⟩, ⟨[⟨1, false⟩, ⟨2, true⟩], by decide⟩,
    ⟨[⟨1, false⟩, ⟨2, false⟩, ⟨3, true⟩], by decide⟩,
    ⟨[⟨0, true⟩, ⟨2, false⟩], by decide⟩, ⟨[⟨3, false⟩, ⟨1, false⟩], by decide⟩]
  ordered := by decide
  covered := by decide

theorem turned_text_solved : DistinctNames turnedClauses ∧
    NamedFormat.readInstance turnedText = .ok turnedFormula ∧
    ∃ run, solve turnedFormula = .ok run ∧
      run.events.map (Event.text turnedFormula) =
        ["Pure p at depth 1", "Decision x at depth 2", "Unit y at depth 3", "Unit z at depth 4",
          "Flip -x at depth 2", "Pure y at depth 3"] ∧
      ∀ e ∈ run.events, ∃ name, turnedFormula.name e.literal.var = .ok name := by
  have distinct : DistinctNames turnedClauses := by decide
  obtain ⟨F, built⟩ := read_and_solve_faultless.2.1 turnedClauses distinct
  have explicit : Formula.ofNamed turnedClauses = .ok turnedFormula :=
    ofNamed_eq_ok_iff.2 ⟨by decide, by decide⟩
  obtain rfl := Except.ok.inj (explicit.symm.trans built)
  obtain ⟨-, run, solved, named, -⟩ := read_and_solve_faultless.2.2 turnedFormula
  have texts : (solve turnedFormula).map (·.events.map (Event.text turnedFormula)) =
      .ok ["Pure p at depth 1", "Decision x at depth 2", "Unit y at depth 3", "Unit z at depth 4",
        "Flip -x at depth 2", "Pure y at depth 3"] := by decide +kernel
  have read : NamedFormat.readClauses ((Text.numberedLines turnedText).filter
      (!NamedFormat.isSeparator ·)) = .ok turnedClauses := by decide +kernel
  have printed := eq_of_map_eq_ok texts solved
  refine ⟨distinct, ?_, run, solved, printed, named⟩
  rw [NamedFormat.readInstance, read, ok_bind]
  change NamedFormat.intern turnedClauses = .ok turnedFormula
  rw [NamedFormat.intern, built]
  rfl

end ClausalSearch
