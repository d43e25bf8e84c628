import ClausalSearch.Proofs.Extensions

/-!
What the two finders find, and why a search may commit to it. The first pure variable of a pool is
found with its sign, and binding it keeps the clauses satisfiable above the assignment. The first
unit clause is found by its status, and all that satisfies the clauses there makes its literal true.
-/
namespace ClausalSearch

variable {a b : Assignment} {clauses : List Clause} {l : Literal} {pool : List Nat} {u : Nat}

def PureVariable (clauses : List Clause) (a : Assignment) (u : Nat) : Prop :=
  ∃ sign, PureIn clauses a ⟨u, sign⟩

theorem pureLiteral_eq_none_iff : pureLiteral? clauses a u = none ↔ ¬ PureVariable clauses a u := by
  rw [Option.eq_none_iff_forall_ne_some]
  constructor
  · intro none_found pure_variable
    obtain ⟨sign, single⟩ := pure_variable
    exact none_found ⟨u, sign⟩ (pureLiteral_eq_some_iff.2 ⟨rfl, single⟩)
  · intro impure l found
    obtain ⟨rfl, single⟩ := pureLiteral_eq_some_iff.1 found
    exact impure ⟨l.positive, single⟩

theorem findPure_eq_some_iff (covers : a.Covers clauses) :
    findPure pool clauses a = .ok (some l) ↔
      ∃ before after, pool = before ++ l.var :: after ∧ PureIn clauses a l ∧
        ∀ u ∈ before, ¬ PureVariable clauses a u := by
  rw [findPure_eq covers, Except.ok.injEq]
  simp only [List.findSome?_eq_some_iff, pureLiteral_eq_some_iff, pureLiteral_eq_none_iff]
  constructor
  · intro found
    obtain ⟨before, u, after, split, ⟨rfl, single⟩, impure⟩ := found
    exact ⟨before, after, split, single, impure⟩
  · intro found
    obtain ⟨before, after, split, single, impure⟩ := found
    exact ⟨before, l.var, after, split, ⟨rfl, single⟩, impure⟩

theorem findPure_eq_none_iff (covers : a.Covers clauses) :
    findPure pool clauses a = .ok none ↔ ∀ u ∈ pool, ¬ PureVariable clauses a u := by
  rw [findPure_eq covers, Except.ok.injEq]
  simp only [List.findSome?_eq_none_iff, pureLiteral_eq_none_iff]

theorem first_pure_found_and_safe (pool : List Nat) {clauses : List Clause} {a : Assignment}
    (covers : a.Covers clauses) :
    ∃ found, findPure pool clauses a = .ok found ∧
      (∀ l, found = some l ↔
        ∃ before after, pool = before ++ l.var :: after ∧ PureIn clauses a l ∧
          ∀ u ∈ before, ¬ PureVariable clauses a u) ∧
      (found = none ↔ ∀ u ∈ pool, ¬ PureVariable clauses a u) ∧
      ∀ l, found = some l → a.isBound l.var = .ok false →
        ∃ b, a.bind l = .ok b ∧ (SatisfiableAbove clauses a ↔ SatisfiableAbove clauses b) := by
  obtain ⟨found, run⟩ : ∃ found, findPure pool clauses a = .ok found := ⟨_, findPure_eq covers⟩
  refine ⟨found, run, ?_, ?_, ?_⟩
  · intro l
    rw [← findPure_eq_some_iff covers, run, Except.ok.injEq]
  · rw [← findPure_eq_none_iff covers, run, Except.ok.injEq]
  · intro l same unbound
    subst same
    obtain ⟨-, single⟩ := findPure_pure covers run
    obtain ⟨c, member, -, inside⟩ := single.1
    rw [Assignment.isBound_eq (covers c member l inside)] at unbound
    have unset : a.Open l.var := by simpa using unbound
    obtain ⟨b, bound⟩ := Assignment.bind_of_open unset
    exact ⟨b, bound, satisfiableAbove_pure_iff single bound⟩

/-- With the first variable true there are an empty clause, two that are satisfied, and behind a
clause that is open in both its literals two unit clauses. -/
def tangledClauses : List Clause :=
  [⟨[], List.nodup_nil⟩, ⟨[⟨0, true⟩], by decide⟩, ⟨[⟨0, true⟩, ⟨1, false⟩], by decide⟩,
    ⟨[⟨1, true⟩, ⟨2, true⟩], by decide⟩, ⟨[⟨2, false⟩, ⟨0, false⟩], by decide⟩,
    ⟨[⟨1, true⟩], by decide⟩]

theorem tangled_pure_found_and_safe : firstBound.Covers tangledClauses ∧
    findPure [2, 7, 1] tangledClauses firstBound = .ok (some ⟨1, true⟩) ∧
    (∃ before after, [2, 7, 1] = before ++ 1 :: after ∧
      PureIn tangledClauses firstBound ⟨1, true⟩ ∧
      ∀ u ∈ before, ¬ PureVariable tangledClauses firstBound u) ∧
    firstBound.isBound 1 = .ok false ∧ ∃ b, firstBound.bind ⟨1, true⟩ = .ok b ∧
      (SatisfiableAbove tangledClauses firstBound ↔ SatisfiableAbove tangledClauses b) := by
  have covers : firstBound.Covers tangledClauses := by unfold Assignment.Covers; decide
  have run : findPure [2, 7, 1] tangledClauses firstBound = .ok (some ⟨1, true⟩) := by decide
  obtain ⟨found, same, first, -, safe⟩ := first_pure_found_and_safe [2, 7, 1] covers
  obtain rfl : some ⟨1, true⟩ = found := Except.ok.inj (run.symm.trans same)
  exact ⟨covers, run, (first ⟨1, true⟩).1 rfl, rfl, safe ⟨1, true⟩ rfl rfl⟩

theorem forced_eq_none_iff {c : Clause} (inside : ∀ l ∈ c.literals, l.var < a.size) :
    c.forced? a = none ↔ ∀ k, c.status a ≠ .ok (.unit k) := by
  rw [Option.eq_none_iff_forall_ne_some]
  simp only [ne_eq, forced_eq_some_iff_status inside]

theorem findUnit_eq_some_iff (covers : a.Covers clauses) :
    findUnit a clauses = .ok (some l) ↔
      ∃ before c after, clauses = before ++ c :: after ∧ c.status a = .ok (.unit l) ∧
        ∀ d ∈ before, ∀ k, d.status a ≠ .ok (.unit k) := by
  rw [findUnit_eq covers, Except.ok.injEq, List.findSome?_eq_some_iff]
  constructor
  · intro found
    obtain ⟨before, c, after, rfl, forced, unforced⟩ := found
    refine ⟨before, c, after, rfl, ?_, ?_⟩
    · exact (forced_eq_some_iff_status (covers c (by simp))).1 forced
    · intro d member
      exact (forced_eq_none_iff (covers d (by simp [member]))).1 (unforced d member)
  · intro found
    obtain ⟨before, c, after, rfl, unit, other⟩ := found
    refine ⟨before, c, after, rfl, ?_, ?_⟩
    · exact (forced_eq_some_iff_status (covers c (by simp))).2 unit
    · intro d member
      exact (forced_eq_none_iff (covers d (by simp [member]))).2 (other d member)

theorem findUnit_eq_none_iff (covers : a.Covers clauses) :
    findUnit a clauses = .ok none ↔ ∀ c ∈ clauses, ∀ k, c.status a ≠ .ok (.unit k) := by
  rw [findUnit_eq covers, Except.ok.injEq, List.findSome?_eq_none_iff]
  constructor
  · intro unforced c member
    exact (forced_eq_none_iff (covers c member)).1 (unforced c member)
  · intro other c member
    exact (forced_eq_none_iff (covers c member)).2 (other c member)

theorem first_unit_found_and_entailed {clauses : List Clause} {a : Assignment}
    (covers : a.Covers clauses) :
    ∃ found, findUnit a clauses = .ok found ∧
      (∀ l, found = some l ↔
        ∃ before c after, clauses = before ++ c :: after ∧ c.status a = .ok (.unit l) ∧
          ∀ d ∈ before, ∀ k, d.status a ≠ .ok (.unit k)) ∧
      (found = none ↔ ∀ c ∈ clauses, ∀ k, c.status a ≠ .ok (.unit k)) ∧
      ∀ l, found = some l → a.isBound l.var = .ok false ∧
        ∀ v : Valuation, v.Extends a → AllHold v clauses → l.Holds v := by
  obtain ⟨found, run⟩ : ∃ found, findUnit a clauses = .ok found := ⟨_, findUnit_eq covers⟩
  refine ⟨found, run, ?_, ?_, ?_⟩
  · intro l
    rw [← findUnit_eq_some_iff covers, run, Except.ok.injEq]
  · rw [← findUnit_eq_none_iff covers, run, Except.ok.injEq]
  · intro l same
    subst same
    obtain ⟨c, member, unsatisfied, only⟩ := findUnit_unit covers run
    have inside := covers c member
    obtain ⟨occurs, unset⟩ := Clause.open_of_unassigned only
    constructor
    · simp [Assignment.isBound_eq (inside l occurs), unset]
    · intro v above holds
      exact unit_forces inside unsatisfied only above (holds c member)

theorem tangled_unit_found_and_entailed : firstBound.Covers tangledClauses ∧
    findUnit firstBound tangledClauses = .ok (some ⟨2, false⟩) ∧
    (∃ before c after, tangledClauses = before ++ c :: after ∧
      c.status firstBound = .ok (.unit ⟨2, false⟩) ∧
      ∀ d ∈ before, ∀ k, d.status firstBound ≠ .ok (.unit k)) ∧
    firstBound.isBound 2 = .ok false ∧
    ∀ v : Valuation, v.Extends firstBound → AllHold v tangledClauses → v 2 = false := by
  have covers : firstBound.Covers tangledClauses := by unfold Assignment.Covers; decide
  have run : findUnit firstBound tangledClauses = .ok (some ⟨2, false⟩) := by decide
  obtain ⟨found, same, first, -, entailed⟩ := first_unit_found_and_entailed covers
  obtain rfl : some ⟨2, false⟩ = found := Except.ok.inj (run.symm.trans same)
  obtain ⟨unbound, forces⟩ := entailed ⟨2, false⟩ rfl
  exact ⟨covers, run, (first ⟨2, false⟩).1 rfl, unbound, forces⟩

end ClausalSearch
