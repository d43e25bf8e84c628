import ClausalSearch.Proofs.Choice
import Mathlib.Data.List.InsertIdx

/-!
The tree of calls of a search. `Explores` relates a state to the answer and the state in which the
search leaves it, with every undo carried out. From a canonical state, whose pool lists the unbound
variables, the search either explores or runs out of its bound, and it needs no greater bound than
the length of the pool.
-/
namespace ClausalSearch

variable {F : Formula} {s t u w : State} {l : Literal} {reason : Reason} {position : Nat}
  {found : Bool}

namespace State

/-- Bindings reach the assignment, and the pool lists its unbound variables in ascending order. -/
structure Canonical (F : Formula) (s : State) : Prop where
  legal : s.assignment.Legal F.numVariables
  ascending : s.pool.Pairwise (· < ·)
  unbound : ∀ u, u ∈ s.pool ↔ s.assignment.Open u

theorem canonical_iff : s.Canonical F ↔
    s.assignment.Legal F.numVariables ∧ s.pool = s.assignment.unbound := by
  constructor
  · intro canonical
    exact ⟨canonical.legal,
      Assignment.eq_unbound_of_ascending canonical.ascending canonical.unbound⟩
  · rintro ⟨legal, pool⟩
    refine ⟨legal, ?_, fun u => ?_⟩
    · rw [pool]
      exact Assignment.unbound_ascending _
    · rw [pool, Assignment.mem_unbound]

theorem canonical_pool (canonical : s.Canonical F) : s.pool = s.assignment.unbound :=
  (canonical_iff.1 canonical).2

theorem initial_canonical (F : Formula) : (initial F).Canonical F := by
  refine canonical_iff.2 ⟨.empty, ?_⟩
  rw [initial, Assignment.unbound_of_legal .empty]
  simp [Assignment.trail, Assignment.empty]

theorem canonical_covers (canonical : s.Canonical F) : s.assignment.Covers F.clauses :=
  formula_covered (Assignment.size_of_legal canonical.legal)

end State

/-- An undecided state takes the chosen literal and the search goes on in the state `t`. -/
structure Opens (F : Formula) (s : State) (reason : Reason) (l : Literal) (t : State) : Prop where
  undecided : verdict? F.clauses s.assignment = .ok none
  chosen : Chosen s.pool F.clauses s.assignment reason l
  bound : s.assignment.bind l = .ok t.assignment
  pool : t.pool = s.pool.erase l.var
  stats : t.stats = s.stats.count reason
  log : t.log = ⟨.chosen reason, l, s.assignment.bound⟩ :: s.log

/-- After the branch of `l` above `s` ended in `u`, the search goes on in `w` with the opposite. -/
structure Turns (s : State) (l : Literal) (u w : State) : Prop where
  bound : s.assignment.bind l.negate = .ok w.assignment
  pool : w.pool = s.pool.erase l.var
  stats : w.stats = u.stats
  log : w.log = ⟨.flipped, l.negate, s.assignment.bound⟩ :: u.log

/-- The state given back when all that was tried above `s` has failed, last in `u`. -/
def State.givenBack (s u : State) : State :=
  { s with stats := { u.stats with backtracks := u.stats.backtracks + 1 }, log := u.log }

inductive Explores (F : Formula) : State → Bool → State → Prop where
  | settled {s : State} {answer : Bool}
      (verdict : verdict? F.clauses s.assignment = .ok (some answer)) : Explores F s answer s
  | found {s t u : State} {reason : Reason} {l : Literal} (opened : Opens F s reason l t)
      (below : Explores F t true u) : Explores F s true u
  | abandoned {s t u : State} {reason : Reason} {l : Literal} (opened : Opens F s reason l t)
      (committed : reason ≠ .decision) (below : Explores F t false u) :
      Explores F s false (s.givenBack u)
  | flipped {s t u w x : State} {l : Literal} (opened : Opens F s .decision l t)
      (first : Explores F t false u) (turned : Turns s l u w) (second : Explores F w true x) :
      Explores F s true x
  | exhausted {s t u w x : State} {l : Literal} (opened : Opens F s .decision l t)
      (first : Explores F t false u) (turned : Turns s l u w) (second : Explores F w false x) :
      Explores F s false (s.givenBack x)

theorem explores_restores (run : Explores F s false t) :
    t.pool = s.pool ∧ t.assignment = s.assignment := by
  cases run with
  | settled verdict => exact ⟨rfl, rfl⟩
  | abandoned opened committed below => exact ⟨rfl, rfl⟩
  | exhausted opened first turned second => exact ⟨rfl, rfl⟩

theorem bind_canonical {k : Literal} (canonical : s.Canonical F)
    (bound : s.assignment.bind k = .ok t.assignment) (pool : t.pool = s.pool.erase k.var) :
    t.Canonical F := by
  refine State.canonical_iff.2 ⟨.bind canonical.legal bound, ?_⟩
  have distinct := Assignment.unbound_nodup s.assignment
  rw [pool, State.canonical_pool canonical, Assignment.unbound_of_bind bound,
    distinct.erase_eq_filter]
  congr 1
  funext u
  simp [bne, beq_eq_decide]

theorem opens_canonical (canonical : s.Canonical F) (opened : Opens F s reason l t) :
    t.Canonical F :=
  bind_canonical canonical opened.bound opened.pool

theorem turns_canonical (canonical : s.Canonical F) (turned : Turns s l u w) : w.Canonical F :=
  bind_canonical canonical turned.bound turned.pool

theorem explores_canonical (canonical : s.Canonical F) (run : Explores F s found t) :
    t.Canonical F := by
  induction run with
  | settled verdict => exact canonical
  | found opened below ih => exact ih (opens_canonical canonical opened)
  | flipped opened first turned second _ ih => exact ih (turns_canonical canonical turned)
  | abandoned opened committed below =>
    exact ⟨canonical.legal, canonical.ascending, canonical.unbound⟩
  | exhausted opened first turned second =>
    exact ⟨canonical.legal, canonical.ascending, canonical.unbound⟩

theorem take_of_open (canonical : s.Canonical F) (unset : s.assignment.Open l.var)
    (reason : Reason) :
    ∃ position t, s.take reason l = .ok (position, t) ∧ s.pool.idxOf? l.var = some position ∧
      s.assignment.bind l = .ok t.assignment ∧ t.pool = s.pool.erase l.var ∧
      t.stats = s.stats.count reason ∧
      t.log = ⟨.chosen reason, l, s.assignment.bound⟩ :: s.log := by
  obtain ⟨b, bound⟩ := Assignment.bind_of_open unset
  have pooled : l.var ∈ s.pool := (canonical.unbound l.var).2 unset
  obtain ⟨position, place⟩ := Option.isSome_iff_exists.1 (List.isSome_idxOf?.2 pooled)
  have pool : s.pool.eraseIdx position = s.pool.erase l.var := by
    rw [List.erase_eq_eraseIdx, place]
  exact ⟨position, _, by rw [State.take, place, bound]; rfl, place, bound, pool, rfl, rfl⟩

theorem take_opens (canonical : s.Canonical F)
    (undecided : verdict? F.clauses s.assignment = .ok none)
    (chosen : Chosen s.pool F.clauses s.assignment reason l) :
    ∃ position t, s.take reason l = .ok (position, t) ∧ Opens F s reason l t ∧
      s.pool.idxOf? l.var = some position := by
  have unset : s.assignment.Open l.var :=
    chosen_open (State.canonical_covers canonical) (State.canonical_pool canonical ▸ chosen)
  obtain ⟨position, t, taken, place, bound, pool, stats, log⟩ :=
    take_of_open canonical unset reason
  exact ⟨position, t, taken, ⟨undecided, chosen, bound, pool, stats, log⟩, place⟩

theorem flip_turns (opened : Opens F s .decision l t) (first : Explores F t false u) :
    ∃ w, u.flip l = .ok w ∧ Turns s l u w := by
  obtain ⟨pool, assignment⟩ := explores_restores first
  have undone := Assignment.unbind_of_bind opened.bound
  rw [← assignment] at undone
  have unset : s.assignment.Open l.var := Assignment.open_of_bind opened.bound
  obtain ⟨b, bound⟩ := Assignment.bind_of_open (l := l.negate) unset
  refine ⟨_, by simp only [State.flip, undone, bound, ok_bind]; rfl, ?_⟩
  exact ⟨bound, pool.trans opened.pool, rfl, rfl⟩

theorem giveBack_givenBack {k : Literal} (bound : s.assignment.bind k = .ok u.assignment)
    (pool : u.pool = s.pool.erase k.var) (place : s.pool.idxOf? k.var = some position) :
    u.giveBack position = .ok (s.givenBack u) := by
  have undone := Assignment.unbind_of_bind bound
  obtain ⟨inside, entry, -⟩ := List.idxOf?_eq_some_iff.1 place
  have shorter : u.pool = s.pool.eraseIdx position := by
    rw [pool, List.erase_eq_eraseIdx, place]
  have fits : ¬ u.pool.length < position := by
    rw [shorter, List.length_eraseIdx_of_lt inside]
    omega
  have restored : u.pool.insertIdx position k.var = s.pool := by
    rw [shorter, ← entry]
    exact List.insertIdx_eraseIdx_getElem inside
  simp only [State.giveBack, undone, if_neg fits, restored]
  rfl

theorem giveBack_of_failed {k : Literal} (bound : s.assignment.bind k = .ok t.assignment)
    (pool : t.pool = s.pool.erase k.var) (place : s.pool.idxOf? k.var = some position)
    (below : Explores F t false u) : u.giveBack position = .ok (s.givenBack u) := by
  obtain ⟨same, assignment⟩ := explores_restores below
  exact giveBack_givenBack (assignment ▸ bound) (same.trans pool) place

structure Takes (F : Formula) (s : State) (reason : Reason) (l : Literal) (position : Nat)
    (t : State) : Prop where
  choice : choose s.pool F.clauses s.assignment = .ok (some (reason, l))
  taken : s.take reason l = .ok (position, t)
  place : s.pool.idxOf? l.var = some position
  opened : Opens F s reason l t

theorem pool_length_of_opens (opened : Opens F s reason l t)
    (place : s.pool.idxOf? l.var = some position) : s.pool.length = t.pool.length + 1 := by
  obtain ⟨inside, -, -⟩ := List.idxOf?_eq_some_iff.1 place
  rw [opened.pool, List.erase_eq_eraseIdx, place, List.length_eraseIdx_of_lt inside]
  omega

theorem pool_ne_nil_of_undecided (canonical : s.Canonical F)
    (undecided : verdict? F.clauses s.assignment = .ok none) : s.pool ≠ [] := by
  obtain ⟨_, _, _, l, _, unset⟩ :=
    exists_open_of_undecided (State.canonical_covers canonical) undecided
  exact List.ne_nil_of_mem ((canonical.unbound l.var).2 unset)

theorem takes_of_undecided (canonical : s.Canonical F)
    (undecided : verdict? F.clauses s.assignment = .ok none) :
    ∃ reason l position t, Takes F s reason l position t := by
  obtain ⟨reason, l, choice, chosen⟩ := choose_total (State.canonical_covers canonical)
    (pool_ne_nil_of_undecided canonical undecided)
  obtain ⟨position, t, taken, opened, place⟩ := take_opens canonical undecided chosen
  exact ⟨reason, l, position, t, choice, taken, place, opened⟩

theorem search_of_verdict {answer : Bool}
    (verdict : verdict? F.clauses s.assignment = .ok (some answer)) (left : Nat) :
    search F left s = .ok (answer, s) := by
  rw [search.eq_def, verdict]
  rfl

theorem search_succ (takes : Takes F s reason l position t) (left : Nat) :
    search F (left + 1) s = (do
      let (found, u) ← search F left t
      let (found, u) ←
        if found ∨ reason ≠ .decision then pure (found, u) else search F left (← u.flip l)
      if found then return (true, u)
      return (false, ← u.giveBack position)) := by
  rw [search, takes.opened.undecided, ok_bind]
  simp only [takes.choice, ok_bind, takes.taken]

/-- The search explores, unless its bound is below the number of unbound variables. -/
def Concludes (F : Formula) (left : Nat) (s : State) : Prop :=
  (∃ found t, search F left s = .ok (found, t) ∧ Explores F s found t) ∨
    (search F left s = .error .tooDeep ∧ left < s.pool.length)

theorem committed_concludes {left : Nat} (takes : Takes F s reason l position t)
    (committed : reason ≠ .decision) (first : search F left t = .ok (false, u))
    (below : Explores F t false u) : Concludes F (left + 1) s := by
  have back : u.giveBack position = .ok (s.givenBack u) :=
    giveBack_of_failed takes.opened.bound takes.opened.pool takes.place below
  have run : search F (left + 1) s = .ok (false, s.givenBack u) := by
    rw [search_succ takes left, first]
    simp [committed, back, pure, Except.pure]
  exact .inl ⟨false, s.givenBack u, run, .abandoned takes.opened committed below⟩

theorem decision_concludes {left : Nat} (takes : Takes F s .decision l position t)
    (first : search F left t = .ok (false, u)) (below : Explores F t false u)
    (turned : Turns s l u w) (flip : u.flip l = .ok w) (other : Concludes F left w) :
    Concludes F (left + 1) s := by
  rw [Concludes, search_succ takes left, first]
  rcases other with ⟨found, x, second, other⟩ | ⟨bounded, low⟩
  · cases found with
    | true =>
      refine .inl ⟨true, x, ?_, .flipped takes.opened below turned other⟩
      simp [flip, second, pure, Except.pure]
    | false =>
      have back : x.giveBack position = .ok (s.givenBack x) :=
        giveBack_of_failed turned.bound turned.pool takes.place other
      refine .inl ⟨false, s.givenBack x, ?_, .exhausted takes.opened below turned other⟩
      simp [flip, second, back, pure, Except.pure]
  · refine .inr ⟨by simp [flip, bounded], ?_⟩
    have shorter := pool_length_of_opens takes.opened takes.place
    rw [turned.pool, ← takes.opened.pool] at low
    omega

/-- The induction is on the bound; the second branch of a decision starts with a pool as long as
the first, because the first has given everything back. -/
theorem search_concludes (canonical : s.Canonical F) (left : Nat) : Concludes F left s := by
  induction left generalizing s with
  | zero =>
    rcases verdict_total (State.canonical_covers canonical) with ⟨answer, verdict⟩ | undecided
    · exact .inl ⟨answer, s, search_of_verdict verdict 0, .settled verdict⟩
    · refine .inr ⟨by rw [search, undecided]; rfl, ?_⟩
      exact List.length_pos_iff.2 (pool_ne_nil_of_undecided canonical undecided)
  | succ left ih =>
    rcases verdict_total (State.canonical_covers canonical) with ⟨answer, verdict⟩ | undecided
    · exact .inl ⟨answer, s, search_of_verdict verdict _, .settled verdict⟩
    obtain ⟨reason, l, position, t, takes⟩ := takes_of_undecided canonical undecided
    rcases ih (opens_canonical canonical takes.opened) with ⟨found, u, first, below⟩ | bounded
    · cases found with
      | true =>
        refine .inl ⟨true, u, ?_, .found takes.opened below⟩
        rw [search_succ takes left, first]
        simp [pure, Except.pure]
      | false =>
        by_cases decision : reason = .decision
        · subst decision
          obtain ⟨w, flip, turned⟩ := flip_turns takes.opened below
          exact decision_concludes takes first below turned flip
            (ih (turns_canonical canonical turned))
        · exact committed_concludes takes decision first below
    · have shorter := pool_length_of_opens takes.opened takes.place
      refine .inr ⟨by rw [search_succ takes left, bounded.1]; rfl, ?_⟩
      have low := bounded.2
      omega

theorem search_total (canonical : s.Canonical F) {left : Nat} (enough : s.pool.length ≤ left) :
    ∃ found t, search F left s = .ok (found, t) ∧ Explores F s found t := by
  rcases search_concludes canonical left with run | ⟨-, low⟩
  · exact run
  · omega

theorem explores_of_search (canonical : s.Canonical F) {left : Nat}
    (run : search F left s = .ok (found, t)) : Explores F s found t := by
  rcases search_concludes canonical left with ⟨_, _, same, explored⟩ | ⟨bounded, -⟩
  · rw [run] at same
    cases same
    exact explored
  · rw [run] at bounded
    cases bounded

end ClausalSearch
