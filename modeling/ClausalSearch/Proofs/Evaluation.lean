import ClausalSearch.Proofs.Assignment
import ClausalSearch.Search.Basic

/-!
Evaluation under an assignment that covers the clauses: it never faults, it computes the
truth values that the definitions `SatisfiedBy` and `FalsifiedBy` state, and every valuation that
extends the assignment agrees with it.
-/
namespace ClausalSearch

variable {a b : Assignment} {c : Clause} {clauses : List Clause} {l : Literal} {v : Valuation}

namespace Clause

def SatisfiedBy (c : Clause) (a : Assignment) : Prop := ∃ l ∈ c.literals, a.Makes l

def FalsifiedBy (c : Clause) (a : Assignment) : Prop := ∀ l ∈ c.literals, a.Makes l.negate

instance : Decidable (c.SatisfiedBy a) := inferInstanceAs (Decidable (∃ l ∈ c.literals, _))

instance : Decidable (c.FalsifiedBy a) := inferInstanceAs (Decidable (∀ l ∈ c.literals, _))

def unassigned (c : Clause) (a : Assignment) : List Literal :=
  c.literals.filter fun l => a.Open l.var

theorem mem_unassigned : l ∈ c.unassigned a ↔ l ∈ c.literals ∧ a.Open l.var := by
  simp [unassigned]

theorem open_of_unassigned (only : c.unassigned a = [l]) : l ∈ c.literals ∧ a.Open l.var :=
  mem_unassigned.1 (by simp [only])

theorem not_satisfied_of_falsified (h : c.FalsifiedBy a) : ¬ c.SatisfiedBy a := by
  rintro ⟨l, member, made⟩
  exact Assignment.not_makes_negate made (h l member)

end Clause

/-- Every variable of the clauses is in the assignment's table. -/
def Assignment.Covers (a : Assignment) (clauses : List Clause) : Prop :=
  ∀ c ∈ clauses, ∀ l ∈ c.literals, l.var < a.size

theorem covers_cons : a.Covers (c :: clauses) ↔
    (∀ l ∈ c.literals, l.var < a.size) ∧ a.Covers clauses := by
  simp [Assignment.Covers]

theorem formula_covered {F : Formula} (sized : a.size = F.numVariables) : a.Covers F.clauses := by
  intro c member l inside
  rw [sized]
  exact F.covered c member l inside

theorem covers_of_bind (bound : a.bind l = .ok b) (covers : a.Covers clauses) :
    b.Covers clauses := by
  intro c member k inside
  rw [Assignment.size_of_bind bound]
  exact covers c member k inside

theorem openLiterals_eq {literals : List Literal} (inside : ∀ l ∈ literals, l.var < a.size) :
    openLiterals a literals = .ok (if ∃ l ∈ literals, a.Makes l then none
      else some (literals.filter fun l => a.Open l.var)) := by
  induction literals with
  | nil => rfl
  | cons k rest ih =>
    have tail := ih fun l member => inside l (List.mem_cons_of_mem k member)
    unfold openLiterals
    rcases Assignment.makes_or_open (inside k (List.mem_cons_self ..)) with made | refuted | unset
    · simp [Assignment.literalValue_of_makes made, made, pure, Except.pure]
    · have unmade : ¬ a.Makes k := fun made => Assignment.not_makes_negate made refuted
      have set : ¬ a.Open k.var := fun unset =>
        Assignment.not_makes_of_open (l := k.negate) unset refuted
      simp [Assignment.literalValue_of_refuted refuted, tail, unmade, set]
    · have unmade := Assignment.not_makes_of_open unset
      rw [Assignment.literalValue_of_open unset, ok_bind, tail, ok_bind]
      by_cases later : ∃ l ∈ rest, a.Makes l <;>
        simp [unmade, unset, later, pure, Except.pure]

theorem status_eq (inside : ∀ l ∈ c.literals, l.var < a.size) :
    c.status a = .ok (if c.SatisfiedBy a then .satisfied else
      match c.unassigned a with
      | [] => .falsified
      | [l] => .unit l
      | _ :: _ :: _ => .unresolved) := by
  rw [Clause.status, openLiterals_eq inside, ok_bind]
  by_cases settled : c.SatisfiedBy a
  · have made := settled
    unfold Clause.SatisfiedBy at made
    rw [if_pos made, if_pos settled]
    rfl
  · have unmade := settled
    unfold Clause.SatisfiedBy at unmade
    rw [if_neg unmade, if_neg settled, ← Clause.unassigned]
    rcases c.unassigned a with _ | ⟨l, _ | _⟩ <;> rfl

theorem falsified_iff (inside : ∀ l ∈ c.literals, l.var < a.size) :
    c.FalsifiedBy a ↔ ¬ c.SatisfiedBy a ∧ c.unassigned a = [] := by
  constructor
  · intro falsified
    refine ⟨Clause.not_satisfied_of_falsified falsified, ?_⟩
    rw [List.eq_nil_iff_forall_not_mem]
    intro l member
    obtain ⟨member, unset⟩ := Clause.mem_unassigned.1 member
    exact Assignment.not_makes_of_open (l := l.negate) unset (falsified l member)
  · rintro ⟨unsatisfied, none_open⟩ l member
    rcases Assignment.makes_or_open (inside l member) with made | refuted | unset
    · exact absurd ⟨l, member, made⟩ unsatisfied
    · exact refuted
    · have listed := Clause.mem_unassigned.2 ⟨member, unset⟩
      rw [none_open] at listed
      cases listed

theorem status_eq_falsified_iff (inside : ∀ l ∈ c.literals, l.var < a.size) :
    c.status a = .ok .falsified ↔ c.FalsifiedBy a := by
  rw [status_eq inside, falsified_iff inside]
  by_cases settled : c.SatisfiedBy a
  · simp [settled]
  · rcases c.unassigned a with _ | ⟨l, _ | _⟩ <;> simp [settled]

theorem status_eq_unit_iff (inside : ∀ l ∈ c.literals, l.var < a.size) :
    c.status a = .ok (.unit l) ↔ ¬ c.SatisfiedBy a ∧ c.unassigned a = [l] := by
  rw [status_eq inside]
  by_cases settled : c.SatisfiedBy a
  · simp [settled]
  · rcases c.unassigned a with _ | ⟨l, _ | _⟩ <;> simp [settled]

theorem isSatisfied_eq (inside : ∀ l ∈ c.literals, l.var < a.size) :
    c.isSatisfied a = .ok (decide (c.SatisfiedBy a)) := by
  apply anyM_eq_ok
  intro l member
  rcases Assignment.makes_or_open (inside l member) with made | refuted | unset
  · simp [Assignment.literalValue_of_makes made, made, pure, Except.pure]
  · have unmade : ¬ a.Makes l := fun made => Assignment.not_makes_negate made refuted
    simp [Assignment.literalValue_of_refuted refuted, unmade, pure, Except.pure]
  · have unmade := Assignment.not_makes_of_open unset
    simp [Assignment.literalValue_of_open unset, unmade, pure, Except.pure]

theorem allSatisfied_eq (covers : a.Covers clauses) :
    allSatisfied clauses a = .ok (decide (∀ c ∈ clauses, c.SatisfiedBy a)) :=
  allM_eq_ok fun c member => isSatisfied_eq (covers c member)

theorem someFalsified_eq (covers : a.Covers clauses) :
    someFalsified clauses a = .ok (decide (∃ c ∈ clauses, c.FalsifiedBy a)) := by
  apply anyM_eq_ok
  intro c member
  have inside := covers c member
  have falsified := status_eq_falsified_iff inside
  rw [status_eq inside] at falsified ⊢
  rw [Except.ok.injEq] at falsified
  rw [ok_bind, decide_eq_decide.2 falsified.symm]
  rfl

theorem verdict_eq (covers : a.Covers clauses) :
    verdict? clauses a = .ok (if ∀ c ∈ clauses, c.SatisfiedBy a then some true
      else if ∃ c ∈ clauses, c.FalsifiedBy a then some false else none) := by
  rw [verdict?, allSatisfied_eq covers, someFalsified_eq covers, ok_bind, ok_bind]
  by_cases satisfied : ∀ c ∈ clauses, c.SatisfiedBy a
  · rw [decide_eq_true satisfied, if_pos satisfied]
    rfl
  · rw [decide_eq_false satisfied, if_neg satisfied]
    by_cases falsified : ∃ c ∈ clauses, c.FalsifiedBy a
    · rw [decide_eq_true falsified, if_pos falsified]
      rfl
    · rw [decide_eq_false falsified, if_neg falsified]
      rfl

theorem verdict_eq_true_iff (covers : a.Covers clauses) :
    verdict? clauses a = .ok (some true) ↔ ∀ c ∈ clauses, c.SatisfiedBy a := by
  by_cases satisfied : ∀ c ∈ clauses, c.SatisfiedBy a
  · exact iff_of_true (by rw [verdict_eq covers, if_pos satisfied]) satisfied
  · apply iff_of_false ?_ satisfied
    intro verdict
    rw [verdict_eq covers, if_neg satisfied] at verdict
    split at verdict <;> cases verdict

theorem verdict_eq_false_iff (covers : a.Covers clauses) :
    verdict? clauses a = .ok (some false) ↔ ∃ c ∈ clauses, c.FalsifiedBy a := by
  constructor
  · intro verdict
    rw [verdict_eq covers] at verdict
    split at verdict
    · cases verdict
    · split at verdict
      · assumption
      · cases verdict
  · rintro ⟨c, member, falsified⟩
    have unsatisfied : ¬ ∀ c ∈ clauses, c.SatisfiedBy a := fun satisfied =>
      Clause.not_satisfied_of_falsified falsified (satisfied c member)
    rw [verdict_eq covers, if_neg unsatisfied, if_pos ⟨c, member, falsified⟩]

theorem verdict_eq_none_iff (covers : a.Covers clauses) :
    verdict? clauses a = .ok none ↔
      (¬ ∀ c ∈ clauses, c.SatisfiedBy a) ∧ ¬ ∃ c ∈ clauses, c.FalsifiedBy a := by
  constructor
  · intro verdict
    constructor
    · intro satisfied
      rw [(verdict_eq_true_iff covers).2 satisfied] at verdict
      cases verdict
    · intro falsified
      rw [(verdict_eq_false_iff covers).2 falsified] at verdict
      cases verdict
  · rintro ⟨unsatisfied, unfalsified⟩
    rw [verdict_eq covers, if_neg unsatisfied, if_neg unfalsified]

theorem verdict_none_iff : verdict? clauses a = .ok none ↔
    allSatisfied clauses a = .ok false ∧ someFalsified clauses a = .ok false := by
  unfold verdict?
  rcases allSatisfied clauses a with fault | _ | _
  · simp
  · rcases someFalsified clauses a with fault | _ | _ <;> simp [pure, Except.pure]
  · simp [pure, Except.pure]

theorem verdict_total (covers : a.Covers clauses) :
    (∃ answer, verdict? clauses a = .ok (some answer)) ∨ verdict? clauses a = .ok none := by
  rw [verdict_eq covers]
  split
  · exact .inl ⟨true, rfl⟩
  · split
    · exact .inl ⟨false, rfl⟩
    · exact .inr rfl

theorem satisfied_holds (above : v.Extends a) (h : c.SatisfiedBy a) : c.Holds v := by
  obtain ⟨l, member, made⟩ := h
  exact ⟨l, member, extends_iff_makes.1 above l made⟩

theorem falsified_not_holds (above : v.Extends a) (h : c.FalsifiedBy a) : ¬ c.Holds v := by
  rintro ⟨l, member, holds⟩
  exact not_holds_of_refuted above (h l member) holds

theorem satisfied_of_bind (bound : a.bind l = .ok b) (h : c.SatisfiedBy a) : c.SatisfiedBy b := by
  obtain ⟨k, member, made⟩ := h
  exact ⟨k, member, (Assignment.makes_of_bind_iff bound).2 (Or.inr made)⟩

theorem satisfied_of_bind_literal (bound : a.bind l = .ok b) (occurs : l ∈ c.literals) :
    c.SatisfiedBy b :=
  ⟨l, occurs, (Assignment.makes_of_bind_iff bound).2 (Or.inl rfl)⟩

theorem falsified_of_bind (bound : a.bind l = .ok b) (h : c.FalsifiedBy a) : c.FalsifiedBy b := by
  intro k member
  exact (Assignment.makes_of_bind_iff bound).2 (Or.inr (h k member))

theorem exists_open_of_undecided (covers : a.Covers clauses)
    (undecided : verdict? clauses a = .ok none) :
    ∃ c ∈ clauses, ¬ c.SatisfiedBy a ∧ ∃ l ∈ c.literals, a.Open l.var := by
  obtain ⟨unsatisfied, unfalsified⟩ := (verdict_eq_none_iff covers).1 undecided
  obtain ⟨c, unsatisfied⟩ := Classical.not_forall.1 unsatisfied
  obtain ⟨member, unsatisfied⟩ := Classical.not_imp.1 unsatisfied
  refine ⟨c, member, unsatisfied, ?_⟩
  have remaining : c.unassigned a ≠ [] := fun none_open =>
    unfalsified ⟨c, member, (falsified_iff (covers c member)).2 ⟨unsatisfied, none_open⟩⟩
  obtain ⟨l, listed⟩ := List.exists_mem_of_ne_nil _ remaining
  exact ⟨l, Clause.mem_unassigned.1 listed⟩

end ClausalSearch
