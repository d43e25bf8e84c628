import ClausalSearch.Proofs.Restoration
import ClausalSearch.Proofs.Satisfiability

/-!
The trail of a model is fixed by the formula. Whatever the search tries and gives up, each literal
that stays is the one that belongs after the literals before it: the pure one, else the forced one,
else the first open variable, negative only if no satisfying valuation makes it true.
-/
namespace ClausalSearch

variable {F : Formula} {s t u w : State} {a b p : Assignment} {l : Literal} {new : List Literal}
  {v : Valuation} {run : Run} {m : Model}

/-- The literal that belongs on the trail after those that `a` has bound. -/
inductive Follows (F : Formula) (a : Assignment) (l : Literal) : Prop where
  | pureLiteral (found : findPure a.unbound F.clauses a = .ok (some l))
  | unitClause (impure : findPure a.unbound F.clauses a = .ok none)
      (found : findUnit a F.clauses = .ok (some l))
  | decision (impure : findPure a.unbound F.clauses a = .ok none)
      (unforced : findUnit a F.clauses = .ok none)
      (smallest : l.var ∈ a.unbound ∧ ∀ u ∈ a.unbound, l.var ≤ u)
      (sign : l.positive = true ↔
        ∃ v : Valuation, v.Extends a ∧ v l.var = true ∧ F.Holds v)

/-- A way from `a` to `b` on which every literal belongs where it stands. -/
inductive Path (F : Formula) : Assignment → List Literal → Assignment → Prop where
  | done {a : Assignment} : Path F a [] a
  | step {a b c : Assignment} {l : Literal} {new : List Literal}
      (undecided : verdict? F.clauses a = .ok none) (follows : Follows F a l)
      (bound : a.bind l = .ok b) (later : Path F b new c) : Path F a (l :: new) c

theorem head_smallest {u : Nat} (first : a.unbound.head? = some u) :
    u ∈ a.unbound ∧ ∀ w ∈ a.unbound, u ≤ w := by
  have ascending := Assignment.unbound_ascending a
  cases same : a.unbound with
  | nil =>
    rw [same] at first
    cases first
  | cons x rest =>
    rw [same] at first ascending
    cases first
    constructor
    · exact List.mem_cons_self ..
    · intro w member
      rcases List.mem_cons.1 member with rfl | later
      · exact Nat.le_refl _
      · exact Nat.le_of_lt (List.rel_of_pairwise_cons ascending later)

theorem extends_of_bindAll (binds : a.bindAll new = .ok b) (above : v.Extends b) :
    v.Extends a := by
  induction new generalizing a with
  | nil =>
    cases binds
    exact above
  | cons l rest ih =>
    rw [Assignment.bindAll, List.foldlM_cons] at binds
    obtain ⟨c, bound, binds⟩ := bind_eq_ok.1 binds
    exact ((extends_of_bind_iff bound).1 (ih binds)).1

theorem exists_above_of_found (canonical : s.Canonical F) (explored : Explores F s true t) :
    ∃ v : Valuation, v.Extends s.assignment ∧ F.Holds v := by
  obtain ⟨new, binds⟩ := explores_binds explored rfl
  obtain ⟨v, above⟩ := exists_extension t.assignment
  have satisfied := explores_satisfies canonical explored rfl
  exact ⟨v, extends_of_bindAll binds above, holds_of_satisfied satisfied above⟩

theorem follows_of_found {reason : Reason} (canonical : s.Canonical F)
    (opened : Opens F s reason l t) (below : Explores F t true u) : Follows F s.assignment l := by
  have chosen := opened.chosen
  rw [State.canonical_pool canonical] at chosen
  cases chosen with
  | pureLiteral found => exact .pureLiteral found
  | unitClause impure found => exact .unitClause impure found
  | decision impure unforced first =>
    refine .decision impure unforced (head_smallest first) (iff_of_true rfl ?_)
    obtain ⟨v, above, holds⟩ := exists_above_of_found (opens_canonical canonical opened) below
    obtain ⟨before, sign⟩ := (extends_of_bind_iff opened.bound).1 above
    exact ⟨v, before, sign, holds⟩

/-- A decision is turned only when no satisfying valuation gives its variable the first sign. -/
theorem follows_of_flipped (canonical : s.Canonical F) (opened : Opens F s .decision l t)
    (first : Explores F t false u) : Follows F s.assignment l.negate := by
  have chosen := opened.chosen
  rw [State.canonical_pool canonical] at chosen
  cases chosen with
  | decision impure unforced head =>
    refine .decision impure unforced (head_smallest head) (iff_of_false Bool.false_ne_true ?_)
    rintro ⟨v, before, sign, holds⟩
    have above : v.Extends t.assignment := (extends_of_bind_iff opened.bound).2 ⟨before, sign⟩
    exact explores_refutes (opens_canonical canonical opened) first rfl v above holds

theorem explores_path (canonical : s.Canonical F) {found : Bool} (explored : Explores F s found t)
    (success : found = true) : ∃ new, Path F s.assignment new t.assignment := by
  induction explored with
  | settled verdict => exact ⟨[], .done⟩
  | found opened below ih =>
    obtain ⟨new, later⟩ := ih (opens_canonical canonical opened) rfl
    exact ⟨_, .step opened.undecided (follows_of_found canonical opened below) opened.bound later⟩
  | flipped opened first turned second _ ih =>
    obtain ⟨new, later⟩ := ih (turns_canonical canonical turned) rfl
    exact ⟨_, .step opened.undecided (follows_of_flipped canonical opened first) turned.bound later⟩
  | abandoned opened committed below => cases success
  | exhausted opened first turned second => cases success

theorem path_binds (path : Path F a new b) : a.bindAll new = .ok b := by
  induction path with
  | done => rfl
  | step undecided follows bound later ih => rw [Assignment.bindAll_cons bound, ih]

theorem path_position (path : Path F a new b) (i : Nat) (inside : i < new.length) :
    ∃ p, a.bindAll (new.take i) = .ok p ∧ verdict? F.clauses p = .ok none ∧
      Follows F p new[i] := by
  induction path generalizing i with
  | done => cases inside
  | @step a b c l rest undecided follows bound later ih =>
    cases i with
    | zero => exact ⟨a, rfl, undecided, follows⟩
    | succ i =>
      obtain ⟨p, reached, rest⟩ := ih i (Nat.lt_of_succ_lt_succ inside)
      refine ⟨p, ?_, rest⟩
      rw [List.take_succ_cons, Assignment.bindAll_cons bound, reached]

theorem model_trail_canonical {F : Formula} {run : Run} {m : Model} (solved : solve F = .ok run)
    (model : run.model = some m) :
    m.formula = F ∧ allSatisfied F.clauses m.assignment = .ok true ∧
    Assignment.ofTrail F.numVariables m.trail = .ok m.assignment ∧
    ∀ i (inside : i < m.trail.length), ∃ p,
      Assignment.ofTrail F.numVariables (m.trail.take i) = .ok p ∧
      allSatisfied F.clauses p = .ok false ∧ someFalsified F.clauses p = .ok false ∧
      Follows F p m.trail[i] := by
  obtain ⟨t, explored, formula, assignment⟩ := explores_of_model solved model
  obtain ⟨new, path⟩ := explores_path (State.initial_canonical F) explored rfl
  have binds : Assignment.ofTrail F.numVariables new = .ok t.assignment := path_binds path
  have trail : m.trail = new := by
    rw [Model.trail, assignment, trail_of_bindAll binds]
    rfl
  subst trail
  refine ⟨formula, ?_, ?_, fun i inside => ?_⟩
  · rw [← formula]
    exact m.satisfied
  · rw [binds, assignment]
  · obtain ⟨p, reached, undecided, follows⟩ := path_position path i inside
    obtain ⟨unsatisfied, unfalsified⟩ := verdict_none_iff.1 undecided
    exact ⟨p, reached, unsatisfied, unfalsified, follows⟩

theorem forked_trail_canonical : ∃ run m, solve forked = .ok run ∧ run.model = some m ∧
    m.trail = [⟨0, false⟩, ⟨1, true⟩, ⟨2, true⟩, ⟨3, false⟩] ∧
    ∀ i (inside : i < m.trail.length), ∃ p,
      Assignment.ofTrail 4 (m.trail.take i) = .ok p ∧
      allSatisfied forked.clauses p = .ok false ∧ someFalsified forked.clauses p = .ok false ∧
      Follows forked p m.trail[i] := by
  have answer : (solve forked).map (fun run => run.model.map Model.trail) =
      .ok (some [⟨0, false⟩, ⟨1, true⟩, ⟨2, true⟩, ⟨3, false⟩]) := by decide +kernel
  obtain ⟨run, solved, computed⟩ := map_eq_ok_iff.1 answer
  obtain ⟨m, model, trail⟩ := Option.map_eq_some_iff.1 computed
  exact ⟨run, m, solved, model, trail, (model_trail_canonical solved model).2.2.2⟩

end ClausalSearch
