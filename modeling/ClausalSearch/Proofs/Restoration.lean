import ClausalSearch.Proofs.Exploration

/-!
Exact undo. A call of the search from a canonical state that finds nothing leaves the pool and the
assignment as they were; one that finds a satisfying assignment has only bound more literals, and
their variables are gone from the pool. Every state on which the search calls itself is canonical.
-/
namespace ClausalSearch

variable {F : Formula} {s t u w : State} {l : Literal} {reason : Reason} {position : Nat}

/-- A call of the search at `s` calls itself at a state with a chosen literal taken, and at the
state with its opposite when the first branch of a decision has failed. -/
inductive Recurses (F : Formula) (s : State) : State → Prop where
  | taken {t : State} {reason : Reason} {l : Literal} {position : Nat}
      (undecided : verdict? F.clauses s.assignment = .ok none)
      (choice : choose s.pool F.clauses s.assignment = .ok (some (reason, l)))
      (taken : s.take reason l = .ok (position, t)) : Recurses F s t
  | flipped {t u w : State} {l : Literal} {position left : Nat}
      (undecided : verdict? F.clauses s.assignment = .ok none)
      (choice : choose s.pool F.clauses s.assignment = .ok (some (.decision, l)))
      (taken : s.take .decision l = .ok (position, t))
      (failed : search F left t = .ok (false, u)) (turned : u.flip l = .ok w) : Recurses F s w

theorem takes_of_choice (canonical : s.Canonical F)
    (undecided : verdict? F.clauses s.assignment = .ok none)
    (choice : choose s.pool F.clauses s.assignment = .ok (some (reason, l)))
    (taken : s.take reason l = .ok (position, t)) : Takes F s reason l position t := by
  obtain ⟨reason', l', position', t', takes⟩ := takes_of_undecided canonical undecided
  have same := takes.choice
  rw [choice] at same
  cases same
  have same := takes.taken
  rw [taken] at same
  cases same
  exact takes

theorem recurses_cases (canonical : s.Canonical F) (call : Recurses F s t) :
    (∃ reason l, Opens F s reason l t) ∨
      ∃ l r u, Opens F s .decision l r ∧ Explores F r false u ∧ Turns s l u t := by
  cases call with
  | taken undecided choice taken =>
    exact .inl ⟨_, _, (takes_of_choice canonical undecided choice taken).opened⟩
  | flipped undecided choice taken failed turned =>
    have takes := takes_of_choice canonical undecided choice taken
    have below := explores_of_search (opens_canonical canonical takes.opened) failed
    obtain ⟨w, flip, turns⟩ := flip_turns takes.opened below
    rw [turned] at flip
    cases flip
    exact .inr ⟨_, _, _, takes.opened, below, turns⟩

theorem recurses_canonical (canonical : s.Canonical F) (call : Recurses F s t) :
    t.Canonical F := by
  rcases recurses_cases canonical call with ⟨_, _, opened⟩ | ⟨_, _, _, _, _, turned⟩
  · exact opens_canonical canonical opened
  · exact turns_canonical canonical turned

theorem search_succ_eq (canonical : s.Canonical F) {left : Nat} (enough : s.pool.length ≤ left) :
    search F (left + 1) s = search F left s := by
  induction left generalizing s with
  | zero =>
    rcases verdict_total (State.canonical_covers canonical) with ⟨answer, verdict⟩ | undecided
    · rw [search_of_verdict verdict, search_of_verdict verdict]
    · exact absurd (List.length_eq_zero_iff.1 (by omega))
        (pool_ne_nil_of_undecided canonical undecided)
  | succ left ih =>
    rcases verdict_total (State.canonical_covers canonical) with ⟨answer, verdict⟩ | undecided
    · rw [search_of_verdict verdict, search_of_verdict verdict]
    obtain ⟨reason, l, position, t, takes⟩ := takes_of_undecided canonical undecided
    have shorter := pool_length_of_opens takes.opened takes.place
    have canonical_below := opens_canonical canonical takes.opened
    have enough_below : t.pool.length ≤ left := by omega
    obtain ⟨found, u, first, below⟩ := search_total canonical_below enough_below
    rw [search_succ takes (left + 1), search_succ takes left, ih canonical_below enough_below,
      first]
    by_cases decided : found = true ∨ reason ≠ .decision
    · simp only [ok_bind, if_pos decided]
    · simp only [not_or, Bool.not_eq_true, Classical.not_not] at decided
      obtain ⟨rfl, rfl⟩ := decided
      obtain ⟨w, flip, turned⟩ := flip_turns takes.opened below
      -- the first branch has given everything back, so the pool is as short as it was for it
      have same : search F (left + 1) w = search F left w := by
        refine ih (turns_canonical canonical turned) ?_
        rw [turned.pool, ← takes.opened.pool]
        omega
      simp [flip, same]

theorem search_eq_of_le (canonical : s.Canonical F) {left more : Nat}
    (enough : s.pool.length ≤ left) (le : left ≤ more) : search F more s = search F left s := by
  induction le with
  | refl => rfl
  | step le ih => rw [search_succ_eq canonical (Nat.le_trans enough le), ih]

theorem explores_binds {found : Bool} (run : Explores F s found t) (success : found = true) :
    ∃ new, s.assignment.bindAll new = .ok t.assignment := by
  induction run with
  | settled verdict => exact ⟨[], rfl⟩
  | found opened below ih =>
    obtain ⟨new, run⟩ := ih rfl
    exact ⟨_ :: new, (Assignment.bindAll_cons opened.bound).trans run⟩
  | flipped opened first turned second _ ih =>
    obtain ⟨new, run⟩ := ih rfl
    exact ⟨_ :: new, (Assignment.bindAll_cons turned.bound).trans run⟩
  | abandoned opened committed below => cases success
  | exhausted opened first turned second => cases success

theorem trail_of_bindAll {a b : Assignment} {new : List Literal} (run : a.bindAll new = .ok b) :
    b.trail = a.trail ++ new := by
  induction new generalizing a with
  | nil =>
    cases run
    simp
  | cons l rest ih =>
    rw [Assignment.bindAll, List.foldlM_cons] at run
    obtain ⟨c, bound, run⟩ := bind_eq_ok.1 run
    rw [ih run, Assignment.trail_of_bind bound, List.append_assoc, List.singleton_append]

theorem canonical_pool_of_trail {new : List Literal} (before : s.Canonical F)
    (after : t.Canonical F) (trail : t.assignment.trail = s.assignment.trail ++ new) :
    t.pool = s.pool.filter fun u => u ∉ new.map Literal.var := by
  rw [State.canonical_pool before, State.canonical_pool after,
    Assignment.unbound_of_legal before.legal, Assignment.unbound_of_legal after.legal, trail,
    List.filter_filter]
  congr 1
  funext u
  rw [List.map_append, ← Bool.decide_and, decide_eq_decide, List.mem_append, not_or]
  exact and_comm

theorem search_restores_or_extends {F : Formula} {s : State} (canonical : s.Canonical F) :
    (State.initial F).Canonical F ∧ (∀ t, Recurses F s t → t.Canonical F) ∧
    ∃ found t, (∀ left, s.pool.length ≤ left → search F left s = .ok (found, t)) ∧
      (found = false → t.pool = s.pool ∧ t.assignment = s.assignment) ∧
      (found = true → ∃ new, t.assignment.trail = s.assignment.trail ++ new ∧
        t.pool = s.pool.filter (fun u => u ∉ new.map Literal.var) ∧ t.Canonical F) := by
  refine ⟨State.initial_canonical F, fun t => recurses_canonical canonical, ?_⟩
  obtain ⟨found, t, run, explored⟩ := search_total canonical (Nat.le_refl s.pool.length)
  refine ⟨found, t, fun left enough => ?_, ?_, ?_⟩
  · rw [search_eq_of_le canonical (Nat.le_refl _) enough, run]
  · rintro rfl
    exact explores_restores explored
  · intro success
    obtain ⟨new, binds⟩ := explores_binds explored success
    have reached := explores_canonical canonical explored
    have trail := trail_of_bindAll binds
    exact ⟨new, trail, canonical_pool_of_trail canonical reached trail, reached⟩

/-- With the first variable true it is contradictory, and with it false it needs more decisions. -/
def forked : Formula where
  names := #["a", "b", "c", "d"]
  clauses := [⟨[⟨0, false⟩, ⟨1, true⟩], by decide⟩, ⟨[⟨0, false⟩, ⟨1, false⟩], by decide⟩,
    ⟨[⟨0, true⟩, ⟨2, true⟩, ⟨3, true⟩], by decide⟩,
    ⟨[⟨0, true⟩, ⟨2, false⟩, ⟨3, false⟩], by decide⟩]
  ordered := by decide
  covered := by decide

def forkedFirst : State where
  pool := [1, 2, 3]
  assignment := ⟨#[some true, none, none, none], [⟨0, true⟩]⟩

/-- The third variable is true, and then the last clause is satisfied by either of two others. -/
def forkedThird : State where
  pool := [0, 1, 3]
  assignment := ⟨#[none, none, some true, none], [⟨2, true⟩]⟩

theorem forked_restored_and_extended :
    (forkedFirst.Canonical forked ∧ ∃ t, search forked 3 forkedFirst = .ok (false, t) ∧
      t.pool = [1, 2, 3] ∧ t.assignment = forkedFirst.assignment) ∧
    forkedThird.Canonical forked ∧ ∃ t, search forked 3 forkedThird = .ok (true, t) ∧
      t.assignment.trail = [⟨2, true⟩, ⟨3, false⟩, ⟨0, false⟩] ∧ t.pool = [1] ∧
      t.Canonical forked := by
  have first : forkedFirst.Canonical forked :=
    State.canonical_iff.2 ⟨.bind (l := ⟨0, true⟩) .empty rfl, by decide⟩
  have third : forkedThird.Canonical forked :=
    State.canonical_iff.2 ⟨.bind (l := ⟨2, true⟩) .empty rfl, by decide⟩
  refine ⟨⟨first, ?_⟩, third, ?_⟩
  · obtain ⟨-, -, found, t, run, restored, -⟩ := search_restores_or_extends first
    have run := run 3 (by decide)
    have fails : (search forked 3 forkedFirst).map Prod.fst = .ok false := by decide +kernel
    obtain rfl : found = false := eq_of_map_eq_ok fails run
    exact ⟨t, run, restored rfl⟩
  · obtain ⟨-, -, found, t, run, -, extended⟩ := search_restores_or_extends third
    have run := run 3 (by decide)
    have succeeds : (search forked 3 forkedThird).map
        (fun r => (r.1, r.2.assignment.trail)) =
          .ok (true, [⟨2, true⟩, ⟨3, false⟩, ⟨0, false⟩]) := by decide +kernel
    have outcome := eq_of_map_eq_ok succeeds run
    obtain ⟨rfl, trail⟩ := Prod.mk.inj outcome
    obtain ⟨new, longer, pool, canonical⟩ := extended rfl
    obtain rfl : new = [⟨3, false⟩, ⟨0, false⟩] :=
      List.append_cancel_left (longer.symm.trans trail)
    exact ⟨t, run, trail, pool, canonical⟩

end ClausalSearch
