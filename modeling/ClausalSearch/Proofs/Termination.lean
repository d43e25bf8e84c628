import ClausalSearch.Proofs.Statistics
import ClausalSearch.Proofs.Trace
import Mathlib.Algebra.Order.Ring.Nat

/-!
The search ends. A call of the search on itself has one variable less to choose from, so nothing
but the pool is needed to bound it, and `n` variables are enough for less than `2 ^ n` bindings.
Only what was bound is given back, so no counter gets further than that. On the way down the trace
passes every level, and the last one is at most `n`.
-/
namespace ClausalSearch

variable {F : Formula} {s t u w : State} {l : Literal} {reason : Reason} {position : Nat}
  {found : Bool} {e : Event} {later older : List Event} {run : Run}

/-- The search as it is without a bound, which may have no result at all. -/
def State.searchFreely (s : State) (F : Formula) : ExceptT Fault Option (Bool × State) := do
  match ← verdict? F.clauses s.assignment with
  | some answer => return (answer, s)
  | none =>
    let some (reason, l) ← choose s.pool F.clauses s.assignment | throw .undecided
    let (position, s) ← s.take reason l
    let (found, s) ← s |>.searchFreely F
    let (found, s) ←
      if found ∨ reason ≠ .decision then pure (found, s) else (← s.flip l) |>.searchFreely F
    if found then return (true, s)
    return (false, ← s.giveBack position)
partial_fixpoint

section Descent

theorem pool_length_of_bind (canonical : s.Canonical F)
    (bound : s.assignment.bind l = .ok t.assignment) (pool : t.pool = s.pool.erase l.var) :
    s.pool.length = t.pool.length + 1 := by
  have pooled : l.var ∈ s.pool := (canonical.unbound l.var).2 (Assignment.open_of_bind bound)
  have filled := List.length_pos_of_mem pooled
  rw [pool, List.length_erase_of_mem pooled]
  omega

theorem opens_shortens (canonical : s.Canonical F) (opened : Opens F s reason l t) :
    s.pool.length = t.pool.length + 1 :=
  pool_length_of_bind canonical opened.bound opened.pool

theorem turns_shortens (canonical : s.Canonical F) (turned : Turns s l u w) :
    s.pool.length = w.pool.length + 1 :=
  pool_length_of_bind canonical turned.bound turned.pool

theorem recurses_shortens (canonical : s.Canonical F) (call : Recurses F s t) :
    s.pool.length = t.pool.length + 1 := by
  rcases recurses_cases canonical call with ⟨_, _, opened⟩ | ⟨_, _, _, _, _, turned⟩
  · exact opens_shortens canonical opened
  · exact turns_shortens canonical turned

theorem calls_end (canonical : s.Canonical F) : Acc (fun t s => Recurses F s t) s := by
  induction length : s.pool.length generalizing s with
  | zero =>
    apply Acc.intro
    intro t call
    have shorter := recurses_shortens canonical call
    omega
  | succ n ih =>
    apply Acc.intro
    intro t call
    have shorter := recurses_shortens canonical call
    exact ih (recurses_canonical canonical call) (by omega)

@[simp] theorem lift_ok {α : Type} (x : α) :
    (liftM (Except.ok x : Except Fault α) : ExceptT Fault Option α) = pure x := rfl

theorem searchFreely_of_takes (takes : Takes F s reason l position t) :
    s.searchFreely F = (do
      let (found, u) ← t.searchFreely F
      let (found, u) ←
        if found ∨ reason ≠ .decision then pure (found, u) else (← u.flip l).searchFreely F
      if found then return (true, u)
      return (false, ← u.giveBack position)) := by
  rw [State.searchFreely, takes.opened.undecided, lift_ok, pure_bind]
  simp only [takes.choice, takes.taken, lift_ok, pure_bind]

theorem searchFreely_of_explores (canonical : s.Canonical F) (explored : Explores F s found t) :
    s.searchFreely F = pure (found, t) := by
  induction explored with
  | settled verdict => rw [State.searchFreely, verdict, lift_ok, pure_bind]
  | found opened below ih =>
    obtain ⟨position, takes⟩ := takes_of_opens canonical opened
    rw [searchFreely_of_takes takes, ih (opens_canonical canonical opened)]
    simp
  | abandoned opened committed below ih =>
    obtain ⟨position, takes⟩ := takes_of_opens canonical opened
    have back := giveBack_of_failed opened.bound opened.pool takes.place below
    rw [searchFreely_of_takes takes, ih (opens_canonical canonical opened)]
    simp [committed, back]
  | flipped opened first turned second first_ih second_ih =>
    obtain ⟨position, takes⟩ := takes_of_opens canonical opened
    have flip := flip_of_turns opened first turned
    rw [searchFreely_of_takes takes, first_ih (opens_canonical canonical opened)]
    simp [flip, second_ih (turns_canonical canonical turned)]
  | exhausted opened first turned second first_ih second_ih =>
    obtain ⟨position, takes⟩ := takes_of_opens canonical opened
    have flip := flip_of_turns opened first turned
    have back := giveBack_of_failed turned.bound turned.pool takes.place second
    rw [searchFreely_of_takes takes, first_ih (opens_canonical canonical opened)]
    simp [flip, second_ih (turns_canonical canonical turned), back]

end Descent

section Budget

/-- The bindings that were made, and at most one less than the power of the pool to come. -/
def State.budget (s : State) : Nat := s.stats.bindings + 2 ^ s.pool.length

theorem bindings_lt_budget (s : State) : s.stats.bindings < s.budget := by
  have positive := Nat.two_pow_pos s.pool.length
  unfold State.budget
  omega

/-- One binding and one variable less leave the budget of a second branch. -/
theorem opens_budget (canonical : s.Canonical F) (opened : Opens F s reason l t) :
    t.budget + 2 ^ t.pool.length = s.budget + 1 := by
  unfold State.budget
  rw [opened.stats, Stats.bindings_count, opens_shortens canonical opened, pow_succ]
  omega

theorem opens_budget_le (canonical : s.Canonical F) (opened : Opens F s reason l t) :
    t.budget ≤ s.budget := by
  have split := opens_budget canonical opened
  have positive := Nat.two_pow_pos t.pool.length
  omega

theorem turns_budget_le (canonical : s.Canonical F) (opened : Opens F s reason l t)
    (spent : u.stats.bindings < t.budget) (turned : Turns s l u w) : w.budget ≤ s.budget := by
  have split := opens_budget canonical opened
  have same : w.pool.length = t.pool.length := by rw [turned.pool, opened.pool]
  unfold State.budget at split ⊢
  rw [turned.stats, same]
  unfold State.budget at spent
  omega

theorem explores_budget (canonical : s.Canonical F) (explored : Explores F s found t) :
    t.stats.bindings < s.budget := by
  induction explored with
  | settled verdict => exact bindings_lt_budget _
  | found opened below ih | abandoned opened committed below ih =>
    have spent := ih (opens_canonical canonical opened)
    exact Nat.lt_of_lt_of_le spent (opens_budget_le canonical opened)
  | flipped opened first turned second first_ih second_ih
  | exhausted opened first turned second first_ih second_ih =>
    have first_spent := first_ih (opens_canonical canonical opened)
    have second_spent := second_ih (turns_canonical canonical turned)
    exact Nat.lt_of_lt_of_le second_spent (turns_budget_le canonical opened first_spent turned)

theorem recurses_budget_le (canonical : s.Canonical F) (call : Recurses F s t) :
    t.budget ≤ s.budget := by
  rcases recurses_cases canonical call with ⟨_, _, opened⟩ | ⟨l, r, u, opened, first, turned⟩
  · exact opens_budget_le canonical opened
  · have spent := explores_budget (opens_canonical canonical opened) first
    exact turns_budget_le canonical opened spent turned

theorem recurses_conserved (canonical : s.Canonical F) (conserved : s.Conserved)
    (call : Recurses F s t) : t.Conserved := by
  rcases recurses_cases canonical call with ⟨_, _, opened⟩ | ⟨l, r, u, opened, first, turned⟩
  · exact opens_conserved opened conserved
  · have between := explores_conserved first (opens_conserved opened conserved)
    exact turns_conserved opened first turned between

theorem initial_budget (F : Formula) : (State.initial F).budget = 2 ^ F.numVariables := by
  simp [State.budget, State.initial, Stats.bindings]

theorem reached_budget_le (reached : Reaches F (.initial F) s) :
    s.budget ≤ 2 ^ F.numVariables := by
  induction reached with
  | refl => exact Nat.le_of_eq (initial_budget F)
  | tail before call ih =>
    have canonical := reaches_canonical (State.initial_canonical F) before
    exact Nat.le_trans (recurses_budget_le canonical call) ih

theorem reached_conserved (reached : Reaches F (.initial F) s) : s.Conserved := by
  induction reached with
  | refl => rfl
  | tail before call ih =>
    exact recurses_conserved (reaches_canonical (State.initial_canonical F) before) ih call

structure Stats.Fits (width : Nat) (stats : Stats) : Prop where
  reasons : ∀ reason, stats.counter reason < 2 ^ width
  backtracks : stats.backtracks < 2 ^ width

theorem counter_le_bindings (stats : Stats) (reason : Reason) :
    stats.counter reason ≤ stats.bindings := by
  cases reason <;> simp only [Stats.counter, Stats.bindings] <;> omega

theorem fits_of_conserved {width : Nat} (conserved : s.Conserved)
    (few : s.stats.bindings < 2 ^ width) : s.stats.Fits width := by
  constructor
  · intro reason
    have least := counter_le_bindings s.stats reason
    omega
  · unfold State.Conserved at conserved
    omega

theorem reached_fits (reached : Reaches F (.initial F) s) : s.stats.Fits F.numVariables :=
  fits_of_conserved (reached_conserved reached)
    (Nat.lt_of_lt_of_le (bindings_lt_budget s) (reached_budget_le reached))

theorem returned_fits {left : Nat} (reached : Reaches F (.initial F) s)
    (returned : search F left s = .ok (found, t)) : t.stats.Fits F.numVariables := by
  have canonical := reaches_canonical (State.initial_canonical F) reached
  have explored := explores_of_search canonical returned
  have spent := explores_budget canonical explored
  exact fits_of_conserved (explores_conserved explored (reached_conserved reached))
    (Nat.lt_of_lt_of_le spent (reached_budget_le reached))

theorem fits_mono {stats : Stats} {width wider : Nat} (fits : stats.Fits width)
    (le : width ≤ wider) : stats.Fits wider := by
  have more : 2 ^ width ≤ 2 ^ wider := Nat.pow_le_pow_right Nat.two_pos le
  constructor
  · intro reason
    exact Nat.lt_of_lt_of_le (fits.reasons reason) more
  · exact Nat.lt_of_lt_of_le fits.backtracks more

end Budget

section Levels

theorem depth_le_succ (coherent : Coherent F (e :: older)) :
    e.depth ≤ (boundAfter older).length + 1 := by
  have kept := (coherent_cons.1 coherent).1.kept.length_le
  rw [Event.depth]
  omega

theorem bound_after_le (reached : Reaches F (.initial F) s) :
    (boundAfter s.log).length ≤ F.numVariables := by
  have canonical := reaches_canonical (State.initial_canonical F) reached
  rw [← reached_bound_after reached]
  exact Assignment.depth_le_of_legal canonical.legal

variable (solves : Solves F run found t)
include solves

theorem event_depth_le (within : e :: older <:+ t.log) : e.depth ≤ F.numVariables := by
  obtain ⟨s, reached, log⟩ := explores_reaches (State.initial_canonical F) solves.explored
    List.nil_suffix within
  have bounded := bound_after_le reached
  rw [log] at bounded
  exact bounded

theorem line_depth_bounds {line : TraceLine} (member : line ∈ run.trace) :
    1 ≤ line.depth ∧ line.depth ≤ F.numVariables := by
  rw [trace_of_solves solves, traceOf] at member
  obtain ⟨e, listed, rfl⟩ := List.mem_map.1 member
  obtain ⟨later, older, split⟩ := List.append_of_mem (List.mem_reverse.1 listed)
  constructor
  · exact Nat.le_add_left 1 _
  · exact event_depth_le solves ⟨later, split.symm⟩

theorem first_line_depth {line : TraceLine} (first : run.trace[0]? = some line) :
    line.depth = 1 := by
  have positive := (line_depth_bounds solves (List.mem_of_getElem? first)).1
  rw [trace_of_solves solves] at first
  obtain ⟨later, e, older, split, empty, rfl⟩ := event_of_line first
  obtain rfl := List.length_eq_zero_iff.1 empty
  have coherent := coherent_of_suffix (solves_coherent solves) ⟨later, split.symm⟩
  have bounded := depth_le_succ coherent
  exact Nat.le_antisymm bounded positive

theorem next_line_depth {i : Nat} {line next : TraceLine} (listed : run.trace[i]? = some line)
    (after : run.trace[i + 1]? = some next) : next.depth ≤ line.depth + 1 := by
  rw [trace_of_solves solves] at listed after
  obtain ⟨_, d, rest, before, place, rfl⟩ := event_of_line listed
  obtain ⟨later, e, older, split, next_place, rfl⟩ := event_of_line after
  -- both lines were read off one log, so the older events of the one begin with the other
  have same : d :: rest = older := by
    have first : d :: rest <:+ t.log := ⟨_, before.symm⟩
    have second : older <:+ t.log := (List.suffix_cons e older).trans ⟨later, split.symm⟩
    have lengths : (d :: rest).length = older.length := by rw [List.length_cons, place, next_place]
    exact (List.suffix_of_suffix_length_le first second (Nat.le_of_eq lengths)).eq_of_length lengths
  subst same
  exact depth_le_succ (coherent_of_suffix (solves_coherent solves) ⟨later, split.symm⟩)

end Levels

theorem search_ends_within_bounds (F : Formula) :
    Acc (fun t s => Recurses F s t) (.initial F) ∧
    ∃ run found t, solve F = .ok run ∧
      ((State.initial F).searchFreely F).run = some (.ok (found, t)) ∧
      run.model.isSome = found ∧ run.stats = t.stats ∧ run.events = t.log.reverse ∧
      run.traced F = run.trace.map (TraceLine.text F) ∧
      (∀ line ∈ run.trace, 1 ≤ line.depth ∧ line.depth ≤ F.numVariables) ∧
      (∀ line, run.trace[0]? = some line → line.depth = 1) ∧
      (∀ i line next, run.trace[i]? = some line → run.trace[i + 1]? = some next →
        next.depth ≤ line.depth + 1) ∧
      run.stats.pureLiterals + run.stats.unitPropagations + run.stats.decisions ≤
        2 ^ F.numVariables - 1 ∧
      run.stats.backtracks ≤ 2 ^ F.numVariables - 1 ∧
      (F.numVariables ≤ 64 → ∀ s, Reaches F (.initial F) s → s.stats.Fits 64 ∧
        ∀ left found t, search F left s = .ok (found, t) → t.stats.Fits 64) := by
  have canonical := State.initial_canonical F
  obtain ⟨run, found, t, solved, solves⟩ := solve_solves F
  have spent := explores_budget canonical solves.explored
  have conserved : t.Conserved := explores_conserved solves.explored rfl
  rw [initial_budget, Stats.bindings] at spent
  unfold State.Conserved Stats.bindings at conserved
  refine ⟨calls_end canonical, run, found, t, solved, ?_, solves_isSome solves, solves.stats,
    solves.events, traced_eq F run, fun line => line_depth_bounds solves,
    fun line => first_line_depth solves, fun i line next => next_line_depth solves, ?_, ?_, ?_⟩
  · rw [searchFreely_of_explores canonical solves.explored]
    rfl
  · rw [solves.stats]
    omega
  · rw [solves.stats]
    omega
  · intro few s reached
    constructor
    · exact fits_mono (reached_fits reached) few
    · intro left found t returned
      exact fits_mono (returned_fits reached returned) few

def pairClause (first second : Bool) : Clause where
  literals := [⟨0, first⟩, ⟨1, second⟩]
  distinct := by simp

/-- All four clauses over two variables: no search over so few goes further. -/
def squared : Formula where
  names := #["a", "b"]
  clauses := [pairClause true true, pairClause true false, pairClause false true,
    pairClause false false]
  ordered := by decide
  covered := by decide

theorem squared_exhausts_bounds : squared.numVariables ≤ 64 ∧
    ∃ run t, solve squared = .ok run ∧
      ((State.initial squared).searchFreely squared).run = some (.ok (false, t)) ∧
      run.traced squared = ["Decision a at depth 1", "Unit b at depth 2",
        "Flip -a at depth 1", "Unit b at depth 2"] ∧
      run.trace.map (·.depth) = [1, 2, 1, 2] ∧ (∀ line ∈ run.trace, line.depth ≤ 2) ∧
      run.stats.bindings = 3 ∧ run.stats.bindings ≤ 2 ^ squared.numVariables - 1 ∧
      run.stats.backtracks = 3 ∧ run.stats.backtracks ≤ 2 ^ squared.numVariables - 1 ∧
      (State.initial squared).stats.Fits 64 := by
  obtain ⟨-, run, found, t, solved, free, isSome, -, -, texts, levels, -, -, bindings, backtracks,
    fits⟩ := search_ends_within_bounds squared
  have few : squared.numVariables ≤ 64 := by decide
  have answer : (solve squared).map (fun run => (run.model.isSome,
      run.trace.map (TraceLine.text squared), run.trace.map (·.depth), run.stats.bindings,
      run.stats.backtracks)) =
        .ok (false, ["Decision a at depth 1", "Unit b at depth 2", "Flip -a at depth 1",
          "Unit b at depth 2"], [1, 2, 1, 2], 3, 3) := by decide +kernel
  have outcome := eq_of_map_eq_ok answer solved
  simp only [Prod.mk.injEq] at outcome
  obtain ⟨unsolved, printed, depths, made, undone⟩ := outcome
  rw [isSome] at unsolved
  subst unsolved
  exact ⟨few, run, t, solved, free, texts.trans printed, depths,
    fun line member => (levels line member).2, made, bindings, undone, backtracks,
    (fits few _ .refl).1⟩

end ClausalSearch
