import ClausalSearch.Proofs.ExactInterning
import ClausalSearch.Proofs.Exploration

/-!
The answer of a search is right. Where it succeeds the assignment satisfies every clause, and where
it fails no valuation above the state satisfies the formula: a pure or a unit literal loses no
satisfying valuation altogether, and a decision is tried with both signs.
-/
namespace ClausalSearch

variable {F : Formula} {s t : State} {l : Literal} {reason : Reason} {v : Valuation}

theorem holds_of_satisfied {a : Assignment} (satisfied : ∀ c ∈ F.clauses, c.SatisfiedBy a)
    (above : v.Extends a) : F.Holds v :=
  fun c member => satisfied_holds above (satisfied c member)

theorem explores_satisfies (canonical : s.Canonical F) {found : Bool} (run : Explores F s found t)
    (success : found = true) : ∀ c ∈ F.clauses, c.SatisfiedBy t.assignment := by
  induction run with
  | settled verdict =>
    subst success
    exact (verdict_eq_true_iff (State.canonical_covers canonical)).1 verdict
  | found opened below ih => exact ih (opens_canonical canonical opened) rfl
  | flipped opened first turned second _ ih => exact ih (turns_canonical canonical turned) rfl
  | abandoned opened committed below => cases success
  | exhausted opened first turned second => cases success

/-- A literal that is no decision can be bound without losing the last satisfying valuation. -/
theorem committed_keeps_satisfiable (canonical : s.Canonical F) (opened : Opens F s reason l t)
    (committed : reason ≠ .decision) (above : v.Extends s.assignment) (holds : F.Holds v) :
    ∃ w : Valuation, w.Extends t.assignment ∧ F.Holds w := by
  have covers := State.canonical_covers canonical
  cases opened.chosen with
  | pureLiteral found =>
    have single := (findPure_pure covers found).2
    exact (satisfiableAbove_pure_iff single opened.bound).1 ⟨v, above, holds⟩
  | unitClause impure found =>
    obtain ⟨c, member, unsatisfied, only⟩ := findUnit_unit covers found
    have forced := unit_forces (covers c member) unsatisfied only above (holds c member)
    exact ⟨v, (extends_of_bind_iff opened.bound).2 ⟨above, forced⟩, holds⟩
  | decision impure unforced first => exact absurd rfl committed

theorem explores_refutes (canonical : s.Canonical F) {found : Bool} (run : Explores F s found t)
    (failure : found = false) : ∀ v : Valuation, v.Extends s.assignment → ¬ F.Holds v := by
  induction run with
  | settled verdict =>
    subst failure
    obtain ⟨c, member, falsified⟩ :=
      (verdict_eq_false_iff (State.canonical_covers canonical)).1 verdict
    intro v above holds
    exact falsified_not_holds above falsified (holds c member)
  | abandoned opened committed below ih =>
    intro v above holds
    obtain ⟨w, above_below, still_holds⟩ :=
      committed_keeps_satisfiable canonical opened committed above holds
    exact ih (opens_canonical canonical opened) rfl w above_below still_holds
  | @exhausted s t u w x l opened first turned second first_ih second_ih =>
    intro v above holds
    -- each branch refutes the valuations with its own sign
    by_cases sign : l.Holds v
    · have above_first := (extends_of_bind_iff opened.bound).2 ⟨above, sign⟩
      exact first_ih (opens_canonical canonical opened) rfl v above_first holds
    · have opposite : l.negate.Holds v := Bool.eq_not.2 sign
      have above_second := (extends_of_bind_iff turned.bound).2 ⟨above, opposite⟩
      exact second_ih (turns_canonical canonical turned) rfl v above_second holds
  | found opened below => cases failure
  | flipped opened first turned second => cases failure

/-- The run of a whole search, read off its exploration from the initial state. -/
structure Solves (F : Formula) (run : Run) (found : Bool) (t : State) : Prop where
  explored : Explores F (.initial F) found t
  stats : run.stats = t.stats
  events : run.events = t.log.reverse
  model : if found then ∃ m, run.model = some m ∧ m.formula = F ∧ m.assignment = t.assignment
    else run.model = none

theorem ofAssignment_total {a : Assignment} (sized : a.size = F.numVariables)
    (satisfied : ∀ c ∈ F.clauses, c.SatisfiedBy a) :
    ∃ m, Model.ofAssignment F a = .ok m ∧ m.formula = F ∧ m.assignment = a := by
  have evaluated : allSatisfied F.clauses a = .ok true := by
    rw [allSatisfied_eq (formula_covered sized), decide_eq_true satisfied]
  rw [Model.ofAssignment, dif_pos sized]
  split
  · exact ⟨_, rfl, rfl, rfl⟩
  · rename_i unsatisfied
    rw [evaluated] at unsatisfied
    cases unsatisfied
  · rename_i faulty
    rw [evaluated] at faulty
    cases faulty

theorem solve_solves (F : Formula) : ∃ run found t, solve F = .ok run ∧ Solves F run found t := by
  have canonical := State.initial_canonical F
  have enough : (State.initial F).pool.length ≤ F.numVariables := by simp [State.initial]
  obtain ⟨found, t, run, explored⟩ := search_total canonical enough
  rw [solve, run, ok_bind]
  cases found with
  | false => exact ⟨_, false, t, rfl, explored, rfl, rfl, rfl⟩
  | true =>
    have sized := Assignment.size_of_legal (explores_canonical canonical explored).legal
    have satisfied := explores_satisfies canonical explored rfl
    obtain ⟨m, made, formula, assignment⟩ := ofAssignment_total sized satisfied
    refine ⟨⟨some m, t.stats, t.log.reverse⟩, true, t, ?_, explored, rfl, rfl, ?_⟩
    · simp [made, pure, Except.pure]
    · exact ⟨m, rfl, formula, assignment⟩

theorem solves_of_solve {run : Run} (solved : solve F = .ok run) :
    ∃ found t, Solves F run found t := by
  obtain ⟨same, found, t, solved_too, solves⟩ := solve_solves F
  rw [solved] at solved_too
  cases solved_too
  exact ⟨found, t, solves⟩

theorem solves_isSome {run : Run} {found : Bool} (solves : Solves F run found t) :
    run.model.isSome = found := by
  have model := solves.model
  cases found with
  | true =>
    obtain ⟨m, answer, -⟩ := model
    rw [answer, Option.isSome_some]
  | false =>
    rw [if_neg Bool.false_ne_true] at model
    rw [model, Option.isSome_none]

theorem solves_model {run : Run} {m : Model} {found : Bool} (solves : Solves F run found t)
    (answer : run.model = some m) :
    found = true ∧ m.formula = F ∧ m.assignment = t.assignment := by
  have success : found = true := by rw [← solves_isSome solves, answer, Option.isSome_some]
  subst success
  obtain ⟨same, model, formula, assignment⟩ := solves.model
  rw [answer] at model
  cases model
  exact ⟨rfl, formula, assignment⟩

theorem solves_unsolved {run : Run} {found : Bool} (solves : Solves F run found t)
    (unsolved : run.model = none) : found = false := by
  rw [← solves_isSome solves, unsolved, Option.isSome_none]

theorem model_legal {run : Run} {m : Model} {found : Bool} (solves : Solves F run found t)
    (answer : run.model = some m) : m.formula = F ∧ m.assignment.Legal F.numVariables := by
  obtain ⟨-, formula, assignment⟩ := solves_model solves answer
  rw [assignment]
  exact ⟨formula, (explores_canonical (State.initial_canonical F) solves.explored).legal⟩

theorem explores_of_model {run : Run} {m : Model} (solved : solve F = .ok run)
    (answer : run.model = some m) :
    ∃ t, Explores F (.initial F) true t ∧ m.formula = F ∧ m.assignment = t.assignment := by
  obtain ⟨found, t, solves⟩ := solves_of_solve solved
  obtain ⟨rfl, formula, assignment⟩ := solves_model solves answer
  exact ⟨t, solves.explored, formula, assignment⟩

theorem exists_extension (a : Assignment) : ∃ v : Valuation, v.Extends a := by
  refine ⟨fun u => a.values[u]? == some (some true), fun u sign entry => ?_⟩
  cases sign <;> simp [entry]

/-- A model is found exactly when one valuation satisfies the formula, and then every valuation
above the model does. -/
theorem model_of_satisfiable {run : Run} {found : Bool} (solves : Solves F run found t) :
    (run.model.isSome ↔ F.Satisfiable) ∧
      ∀ m, run.model = some m → m.formula = F ∧
        ∀ v : Valuation, v.Extends m.assignment → F.Holds v := by
  have canonical := State.initial_canonical F
  have model := solves.model
  cases found with
  | true =>
    obtain ⟨m, model, formula, assignment⟩ := model
    have satisfied := explores_satisfies canonical solves.explored rfl
    obtain ⟨v, above⟩ := exists_extension t.assignment
    constructor
    · exact iff_of_true (by simp [model]) ⟨v, holds_of_satisfied satisfied above⟩
    · intro m' same
      rw [model] at same
      cases same
      refine ⟨formula, fun v above => holds_of_satisfied satisfied ?_⟩
      rw [← assignment]
      exact above
  | false =>
    have refuted := explores_refutes canonical solves.explored rfl
    rw [if_neg Bool.false_ne_true] at model
    constructor
    · apply iff_of_false (by simp [model])
      rintro ⟨v, holds⟩
      exact refuted v (extends_empty v _) holds
    · intro m same
      rw [model] at same
      cases same

theorem solve_some_iff_satisfiable {clauses : List (List NamedLiteral)}
    (distinct : DistinctNames clauses) :
    ∃ F run, Formula.ofNamed clauses = .ok F ∧ solve F = .ok run ∧
      (run.model.isSome ↔ F.Satisfiable) ∧
      ∀ m, run.model = some m → m.formula = F ∧
        ∀ v : Valuation, v.Extends m.assignment → F.Holds v := by
  obtain ⟨F, built⟩ := ofNamed_total distinct
  obtain ⟨run, found, t, solved, solves⟩ := solve_solves F
  exact ⟨F, run, built, solved, model_of_satisfiable solves⟩

/-- The first decision has to be turned, and `z` does not matter then. -/
def mixedClauses : List (List NamedLiteral) :=
  [[⟨"", false⟩, ⟨"z", true⟩], [⟨"", false⟩, ⟨"z", false⟩],
    [⟨"", true⟩, ⟨"b", true⟩, ⟨"c", true⟩], [⟨"c", false⟩, ⟨"", true⟩, ⟨"b", false⟩]]

def mixed : Formula where
  names := #["", "b", "c", "z"]
  clauses := [⟨[⟨0, false⟩, ⟨3, true⟩], by decide⟩, ⟨[⟨0, false⟩, ⟨3, false⟩], by decide⟩,
    ⟨[⟨0, true⟩, ⟨1, true⟩, ⟨2, true⟩], by decide⟩,
    ⟨[⟨2, false⟩, ⟨0, true⟩, ⟨1, false⟩], by decide⟩]
  ordered := by decide
  covered := by decide

def voidClauses : List (List NamedLiteral) :=
  [[⟨"x", false⟩, ⟨"y", true⟩, ⟨"z", false⟩], [⟨"z", true⟩], []]

def void : Formula where
  names := #["x", "y", "z"]
  clauses := [⟨[⟨0, false⟩, ⟨1, true⟩, ⟨2, false⟩], by decide⟩, ⟨[⟨2, true⟩], by decide⟩,
    ⟨[], List.nodup_nil⟩]
  ordered := by decide
  covered := by decide

theorem mixed_model_iff_satisfiable :
    (DistinctNames mixedClauses ∧ Formula.ofNamed mixedClauses = .ok mixed ∧
      ∃ run m, solve mixed = .ok run ∧ run.model = some m ∧
        m.trail = [⟨0, false⟩, ⟨1, true⟩, ⟨2, false⟩] ∧ mixed.Satisfiable ∧
        ∀ v : Valuation, v.Extends m.assignment → mixed.Holds v) ∧
    DistinctNames voidClauses ∧ Formula.ofNamed voidClauses = .ok void ∧
      ∃ run, solve void = .ok run ∧ run.model.isSome = false ∧ ¬ void.Satisfiable := by
  have distinct : DistinctNames mixedClauses ∧ DistinctNames voidClauses := by decide
  have mixedBuilt : Formula.ofNamed mixedClauses = .ok mixed :=
    ofNamed_eq_ok_iff.2 ⟨by decide, by decide⟩
  have voidBuilt : Formula.ofNamed voidClauses = .ok void :=
    ofNamed_eq_ok_iff.2 ⟨by decide, by decide⟩
  constructor
  · obtain ⟨F, run, built, solved, answered, models⟩ := solve_some_iff_satisfiable distinct.1
    obtain rfl := Except.ok.inj (mixedBuilt.symm.trans built)
    have found : (solve mixed).map (fun run => run.model.map Model.trail) =
        .ok (some [⟨0, false⟩, ⟨1, true⟩, ⟨2, false⟩]) := by decide +kernel
    have outcome := eq_of_map_eq_ok found solved
    obtain ⟨m, model, trail⟩ := Option.map_eq_some_iff.1 outcome
    exact ⟨distinct.1, built, run, m, solved, model, trail, answered.1 (by simp [model]),
      (models m model).2⟩
  · obtain ⟨F, run, built, solved, answered, -⟩ := solve_some_iff_satisfiable distinct.2
    obtain rfl := Except.ok.inj (voidBuilt.symm.trans built)
    have failed : (solve void).map (fun run => run.model.isSome) = .ok false := by decide +kernel
    have unsolved := eq_of_map_eq_ok failed solved
    refine ⟨distinct.2, built, run, solved, unsolved, ?_⟩
    rw [← answered, unsolved]
    exact Bool.false_ne_true

end ClausalSearch
