import ClausalSearch.Proofs.Satisfiability

/-!
Evaluation under a partial assignment against all valuations above it. Counting true, false and
open literals tells what every one of them says: the open literals of a clause are over different
variables, so where no literal is true a single valuation makes all of them false.
-/
namespace ClausalSearch

variable {a b : Assignment} {c : Clause} {clauses : List Clause} {l : Literal} {v : Valuation}

def Clause.TrueAbove (c : Clause) (a : Assignment) : Prop :=
  ∀ v : Valuation, v.Extends a → c.Holds v

def Clause.FalseAbove (c : Clause) (a : Assignment) : Prop :=
  ∀ v : Valuation, v.Extends a → ¬ c.Holds v

def Status.Describes (c : Clause) (a : Assignment) : Status → Prop
  | .satisfied => c.TrueAbove a
  | .falsified => c.FalseAbove a
  | .unit l => ¬ c.TrueAbove a ∧ ¬ c.FalseAbove a ∧ c.unassigned a = [l]
  | .unresolved => ¬ c.TrueAbove a ∧ ¬ c.FalseAbove a ∧ ∀ l, c.unassigned a ≠ [l]

/-- The valuation above the assignment in which an open variable has the sign that the clause does
not want. -/
def Assignment.refuting (a : Assignment) (c : Clause) : Valuation := fun u =>
  match a.values[u]? with
  | some (some sign) => sign
  | _ => c.polarity? u == some false

theorem refuting_extends (a : Assignment) (c : Clause) : (a.refuting c).Extends a := by
  intro u sign entry
  simp [Assignment.refuting, entry]

/-- The variable of an open literal has no other literal in the clause. -/
theorem refuting_of_open (member : l ∈ c.literals) (unset : a.Open l.var) :
    ¬ l.Holds (a.refuting c) := by
  have sign : c.polarity? l.var = some l.positive := polarity_eq_some_iff.2 member
  unfold Assignment.Open at unset
  cases positive : l.positive <;>
    simp [Literal.Holds, Assignment.refuting, unset, sign, positive]

theorem refuting_falsifies (inside : ∀ l ∈ c.literals, l.var < a.size)
    (unsatisfied : ¬ c.SatisfiedBy a) : ¬ c.Holds (a.refuting c) := by
  intro holds
  obtain ⟨l, member, holds⟩ := holds
  rcases Assignment.makes_or_open (inside l member) with made | refuted | unset
  · exact unsatisfied ⟨l, member, made⟩
  · exact not_holds_of_refuted (refuting_extends a c) refuted holds
  · exact refuting_of_open member unset holds

theorem satisfied_iff_trueAbove (inside : ∀ l ∈ c.literals, l.var < a.size) :
    c.SatisfiedBy a ↔ c.TrueAbove a := by
  constructor
  · intro satisfied v above
    exact satisfied_holds above satisfied
  · intro always
    by_contra unsatisfied
    exact refuting_falsifies inside unsatisfied (always _ (refuting_extends a c))

theorem falsified_iff_falseAbove : c.FalsifiedBy a ↔ c.FalseAbove a := by
  constructor
  · intro falsified v above
    exact falsified_not_holds above falsified
  · intro never l member
    by_contra possible
    obtain ⟨v, above⟩ := exists_extension a
    exact never (v.set l) (set_extends above possible) ⟨l, member, set_holds_self⟩

theorem status_iff_describes (inside : ∀ l ∈ c.literals, l.var < a.size) (status : Status) :
    c.status a = .ok status ↔ status.Describes c a := by
  have satisfied := satisfied_iff_trueAbove inside
  have falsified := falsified_iff inside
  rw [falsified_iff_falseAbove] at falsified
  rw [status_eq inside]
  by_cases settled : c.SatisfiedBy a
  · cases status <;> simp [Status.Describes, settled, ← satisfied, falsified]
  · cases listed : c.unassigned a with
    | nil => cases status <;> simp [Status.Describes, settled, ← satisfied, falsified, listed]
    | cons l rest =>
      cases rest <;> cases status <;>
        simp [Status.Describes, settled, ← satisfied, falsified, listed]

theorem falsified_of_total (inside : ∀ l ∈ c.literals, l.var < a.size)
    (total : ∀ u < a.size, ¬ a.Open u) (unsatisfied : ¬ c.SatisfiedBy a) : c.FalsifiedBy a := by
  intro l member
  rcases Assignment.makes_or_open (inside l member) with made | refuted | unset
  · exact absurd ⟨l, member, made⟩ unsatisfied
  · exact refuted
  · exact absurd unset (total l.var (inside l member))

theorem allSatisfied_iff_extensions (covers : a.Covers clauses) :
    (∀ c ∈ clauses, c.SatisfiedBy a) ↔ ∀ v : Valuation, v.Extends a → AllHold v clauses := by
  constructor
  · intro satisfied v above c member
    exact satisfied_holds above (satisfied c member)
  · intro always c member
    refine (satisfied_iff_trueAbove (covers c member)).2 ?_
    intro v above
    exact always v above c member

theorem satisfied_xor_falsified (covers : a.Covers clauses) (total : ∀ u < a.size, ¬ a.Open u) :
    (∀ c ∈ clauses, c.SatisfiedBy a) ↔ ¬ ∃ c ∈ clauses, c.FalsifiedBy a := by
  constructor
  · intro satisfied falsified
    obtain ⟨c, member, falsified⟩ := falsified
    exact Clause.not_satisfied_of_falsified falsified (satisfied c member)
  · intro unfalsified c member
    by_contra unsatisfied
    exact unfalsified ⟨c, member, falsified_of_total (covers c member) total unsatisfied⟩

theorem evaluation_decides_extensions {a : Assignment} {clauses : List Clause}
    (covers : a.Covers clauses) :
    (∃ satisfied falsified,
      allSatisfied clauses a = .ok satisfied ∧ someFalsified clauses a = .ok falsified ∧
      (satisfied = true ↔ ∀ v : Valuation, v.Extends a → AllHold v clauses) ∧
      (falsified = true ↔ ∃ c ∈ clauses, c.FalseAbove a) ∧
      (∀ n, a.Legal n → a.isTotal = true → satisfied ≠ falsified) ∧
      ∀ l b, a.bind l = .ok b →
        (satisfied = true → allSatisfied clauses b = .ok true) ∧
        (falsified = true → someFalsified clauses b = .ok true)) ∧
    ∀ c ∈ clauses, ∃ status satisfied,
      c.status a = .ok status ∧ c.isSatisfied a = .ok satisfied ∧
      (satisfied = true ↔ status = .satisfied) ∧
      ∀ other : Status, status = other ↔ other.Describes c a := by
  constructor
  · refine ⟨_, _, allSatisfied_eq covers, someFalsified_eq covers, ?_, ?_, ?_, ?_⟩
    · rw [decide_eq_true_iff]
      exact allSatisfied_iff_extensions covers
    · simp only [decide_eq_true_iff, falsified_iff_falseAbove]
    · intro n legal total same
      rw [Assignment.isTotal_iff_of_legal legal, ← Assignment.size_of_legal legal] at total
      rw [decide_eq_decide] at same
      exact iff_not_self (same.symm.trans (satisfied_xor_falsified covers total))
    · intro l b bound
      rw [allSatisfied_eq (covers_of_bind bound covers),
        someFalsified_eq (covers_of_bind bound covers)]
      simp only [decide_eq_true_iff, Except.ok.injEq]
      constructor
      · intro satisfied c member
        exact satisfied_of_bind bound (satisfied c member)
      · intro falsified
        obtain ⟨c, member, falsified⟩ := falsified
        exact ⟨c, member, falsified_of_bind bound falsified⟩
  · intro c member
    have inside := covers c member
    have described := status_iff_describes inside
    rw [status_eq inside] at described
    refine ⟨_, _, status_eq inside, isSatisfied_eq inside, ?_, ?_⟩
    · rw [decide_eq_true_iff, ← Except.ok.injEq, described .satisfied]
      exact satisfied_iff_trueAbove inside
    · intro other
      rw [← Except.ok.injEq]
      exact described other

/-- One clause for each status that the assignment below gives, and the empty clause. -/
def fiveClauses : List Clause :=
  [⟨[⟨0, true⟩, ⟨1, true⟩], by decide⟩, ⟨[⟨0, false⟩, ⟨2, true⟩], by decide⟩,
    ⟨[⟨1, true⟩, ⟨2, false⟩], by decide⟩, ⟨[⟨0, false⟩], by decide⟩, ⟨[], by decide⟩]

def firstBound : Assignment := ⟨#[some true, none, none], [⟨0, true⟩]⟩

def allBound : Assignment :=
  ⟨#[some true, some true, some false], [⟨2, false⟩, ⟨1, true⟩, ⟨0, true⟩]⟩

def fiveStatuses : List Status := [.satisfied, .unit ⟨2, true⟩, .unresolved, .falsified, .falsified]

theorem five_statuses_described :
    firstBound.Covers fiveClauses ∧ allBound.Covers fiveClauses ∧
    (∀ known ∈ fiveClauses.zip fiveStatuses, known.2.Describes known.1 firstBound) ∧
    allBound.Legal 3 ∧ allBound.isTotal = true ∧
    ∃ satisfied falsified, allSatisfied fiveClauses allBound = .ok satisfied ∧
      someFalsified fiveClauses allBound = .ok falsified ∧ satisfied ≠ falsified := by
  have covers : firstBound.Covers fiveClauses := by unfold Assignment.Covers; decide
  have allCovers : allBound.Covers fiveClauses := by unfold Assignment.Covers; decide
  have legal : allBound.Legal 3 :=
    .bind (l := ⟨2, false⟩) (.bind (l := ⟨1, true⟩) (.bind (l := ⟨0, true⟩) .empty rfl) rfl) rfl
  have evaluated : ∀ known ∈ fiveClauses.zip fiveStatuses,
      known.1 ∈ fiveClauses ∧ known.1.status firstBound = .ok known.2 := by decide
  refine ⟨covers, allCovers, ?_, legal, rfl, ?_⟩
  · intro known member
    obtain ⟨listed, evaluated⟩ := evaluated known member
    obtain ⟨status, -, same, -, -, described⟩ :=
      (evaluation_decides_extensions covers).2 known.1 listed
    rw [same, Except.ok.injEq] at evaluated
    exact (described known.2).1 evaluated
  · obtain ⟨satisfied, falsified, all, some, -, -, opposite, -⟩ :=
      (evaluation_decides_extensions allCovers).1
    exact ⟨satisfied, falsified, all, some, opposite 3 legal rfl⟩

end ClausalSearch
