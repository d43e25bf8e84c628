import ClausalSearch.Proofs.EqualRuns

/-!
What a search does not see: the order of the literals in a clause, and clauses that repeat an
earlier one. The verdict and the pure literals depend on the literals of the clauses alone; the
unit literal is that of the first unit clause, and a copy never stands before its original.
-/
namespace ClausalSearch

variable {F G : Formula} {a : Assignment} {c d : Clause} {cs ds : List Clause} {l : Literal}

def Clause.Reorders (c d : Clause) : Prop := c.literals.Perm d.literals

/-- One change that adds nothing: a clause is put in another order, or repeated further behind. -/
inductive Restates : List Clause → List Clause → Prop where
  | reordered {c d : Clause} (before after : List Clause) (same : c.Reorders d) :
      Restates (before ++ c :: after) (before ++ d :: after)
  | repeated {c d : Clause} (before between after : List Clause) (same : c.Reorders d) :
      Restates (before ++ c :: between ++ after) (before ++ c :: between ++ d :: after)

section Reordered

variable (same : c.Reorders d)
include same

theorem mem_of_reorders : l ∈ c.literals ↔ l ∈ d.literals := List.Perm.mem_iff same

theorem satisfied_of_reorders : c.SatisfiedBy a ↔ d.SatisfiedBy a := by
  simp only [Clause.SatisfiedBy, mem_of_reorders same]

theorem falsified_of_reorders : c.FalsifiedBy a ↔ d.FalsifiedBy a := by
  simp only [Clause.FalsifiedBy, mem_of_reorders same]

/-- A list of one literal has no other order, so the forced literal is the same. -/
theorem forced_of_reorders : c.forced? a = d.forced? a := by
  have unassigned : (c.unassigned a).Perm (d.unassigned a) := List.Perm.filter _ same
  apply Option.ext
  intro l
  rw [forced_eq_some_iff, forced_eq_some_iff, satisfied_of_reorders same]
  constructor
  · intro forced
    refine ⟨forced.1, List.perm_singleton.1 ?_⟩
    rw [← forced.2]
    exact unassigned.symm
  · intro forced
    refine ⟨forced.1, List.perm_singleton.1 ?_⟩
    rw [← forced.2]
    exact unassigned

end Reordered

section Step

variable (step : Restates cs ds)
include step

theorem exists_iff_of_restates {P : Clause → Prop}
    (stable : ∀ c d : Clause, c.Reorders d → (P c ↔ P d)) :
    (∃ c ∈ ds, P c) ↔ ∃ c ∈ cs, P c := by
  cases step with
  | reordered before after same => simp [or_and_right, exists_or, stable _ _ same]
  | @repeated c d before between after same =>
    have copied := stable c d same
    simp only [List.mem_append, List.mem_cons, or_and_right, exists_or, exists_eq_left, ← copied]
    by_cases holds : P c <;> simp [holds]

theorem forall_iff_of_restates {P : Clause → Prop}
    (stable : ∀ c d : Clause, c.Reorders d → (P c ↔ P d)) :
    (∀ c ∈ ds, P c) ↔ ∀ c ∈ cs, P c := by
  have refuted := exists_iff_of_restates step (P := fun c => ¬ P c)
    fun c d same => not_congr (stable c d same)
  simpa using not_congr refuted

/-- The first result of a list is that of the other, since a copy gives what its original gave. -/
theorem findSome_of_restates {β : Type} {f : Clause → Option β}
    (stable : ∀ c d : Clause, c.Reorders d → f c = f d) : ds.findSome? f = cs.findSome? f := by
  cases step with
  | @reordered c d before after same =>
    have known := stable c d same
    simp [List.findSome?_append, List.findSome?_cons, known]
  | @repeated c d before between after same =>
    have copied := stable c d same
    simp only [List.findSome?_append, List.findSome?_cons, ← copied]
    cases f c <;> simp

theorem pureIn_of_restates : PureIn ds a l ↔ PureIn cs a l := by
  unfold PureIn
  rw [exists_iff_of_restates step, forall_iff_of_restates step]
  · intro c d same
    rw [satisfied_of_reorders same, mem_of_reorders same]
  · intro c d same
    rw [satisfied_of_reorders same, mem_of_reorders same]

theorem covers_of_restates : a.Covers ds ↔ a.Covers cs := by
  apply forall_iff_of_restates step
  intro c d same
  simp only [mem_of_reorders same]

theorem agree_of_restates : Agree cs ds := by
  refine ⟨(covers_of_restates step).2, fun {a} covers => ?_, fun {a} pool covers => ?_,
    fun {a} covers => ?_⟩
  · have satisfied := forall_iff_of_restates step (P := (·.SatisfiedBy a))
      fun c d same => satisfied_of_reorders same
    have falsified := exists_iff_of_restates step (P := (·.FalsifiedBy a))
      fun c d same => falsified_of_reorders same
    rw [verdict_eq covers, verdict_eq ((covers_of_restates step).2 covers)]
    simp only [satisfied, falsified]
  · have same : pureLiteral? ds a = pureLiteral? cs a := by
      funext u
      apply Option.ext
      intro l
      rw [pureLiteral_eq_some_iff, pureLiteral_eq_some_iff, pureIn_of_restates step]
    rw [findPure_eq covers, findPure_eq ((covers_of_restates step).2 covers), same]
  · rw [findUnit_eq covers, findUnit_eq ((covers_of_restates step).2 covers),
      findSome_of_restates step fun c d same => forced_of_reorders same]

end Step

theorem agree_of_restated (restated : Relation.ReflTransGen Restates cs ds) : Agree cs ds := by
  induction restated with
  | refl => exact agree_refl cs
  | tail _ step ih => exact agree_trans ih (agree_of_restates step)

theorem restated_run_alike (names : G.names = F.names)
    (restated : Relation.ReflTransGen Restates F.clauses G.clauses) :
    ∃ run other, solve F = .ok run ∧ solve G = .ok other ∧
      other.isSatisfiable = run.isSatisfiable ∧
      other.model.map Model.assignment = run.model.map Model.assignment ∧
      other.model.map Model.trail = run.model.map Model.trail ∧
      other.stats = run.stats ∧ other.records G = run.records F := by
  have size : G.numVariables = F.numVariables := by
    rw [Formula.numVariables, names, Formula.numVariables]
  have named : G.named = F.named := by
    funext l
    rw [Formula.named, Formula.named, names]
  obtain ⟨run, other, solved, otherSolved, alike⟩ := run_alike size (agree_of_restated restated)
  refine ⟨run, other, solved, otherSolved, alike_isSatisfiable alike, alike.assignment,
    alike_trail alike, alike.stats, ?_⟩
  rw [records_eq, records_eq, named]
  exact recordsAs_of_alike alike

def forkedSwapped : Clause := ⟨[⟨1, true⟩, ⟨0, false⟩], by decide⟩

def forkedRestated : Formula where
  names := forked.names
  clauses := forkedSwapped :: forked.clauses.tail ++ [forkedSwapped]
  ordered := forked.ordered
  covered := by decide

theorem forked_restated_run_alike :
    Relation.ReflTransGen Restates forked.clauses forkedRestated.clauses ∧
    ∃ run other, solve forked = .ok run ∧ solve forkedRestated = .ok other ∧
      run.model.map Model.trail =
        some [⟨0, false⟩, ⟨1, true⟩, ⟨2, true⟩, ⟨3, false⟩] ∧
      run.events.map (Event.text forked) =
        ["Decision a at depth 1", "Unit b at depth 2", "Flip -a at depth 1",
          "Decision b at depth 2", "Decision c at depth 3", "Pure -d at depth 4"] ∧
      other.isSatisfiable = run.isSatisfiable ∧
      other.model.map Model.assignment = run.model.map Model.assignment ∧
      other.model.map Model.trail = run.model.map Model.trail ∧
      other.stats = run.stats ∧ other.records forkedRestated = run.records forked := by
  have swapped : Restates forked.clauses (forkedSwapped :: forked.clauses.tail) :=
    .reordered [] forked.clauses.tail (List.Perm.swap ..)
  have repeated : Restates (forkedSwapped :: forked.clauses.tail) forkedRestated.clauses := by
    have same : forkedSwapped.Reorders forkedSwapped := List.Perm.refl _
    have copied := Restates.repeated [] forked.clauses.tail [] same
    rwa [List.append_nil] at copied
  have restated : Relation.ReflTransGen Restates forked.clauses forkedRestated.clauses :=
    .tail (.single swapped) repeated
  obtain ⟨run, other, solved, otherSolved, alike⟩ :=
    restated_run_alike (F := forked) (G := forkedRestated) rfl restated
  have computed : (solve forked).map
      (fun run => (run.model.map Model.trail, run.events.map (Event.text forked))) =
        .ok (some [⟨0, false⟩, ⟨1, true⟩, ⟨2, true⟩, ⟨3, false⟩],
          ["Decision a at depth 1", "Unit b at depth 2", "Flip -a at depth 1",
            "Decision b at depth 2", "Decision c at depth 3", "Pure -d at depth 4"]) := by
    decide +kernel
  have outcome := eq_of_map_eq_ok computed solved
  obtain ⟨trail, texts⟩ := Prod.mk.inj outcome
  exact ⟨restated, run, other, solved, otherSolved, trail, texts, alike⟩

end ClausalSearch
