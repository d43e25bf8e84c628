import ClausalSearch.Proofs.Trace

/-!
Propagation makes progress. A pure or a forced literal satisfies a clause that was open, and a pure
one leaves the status of every other clause as it was. What stands on the trail has therefore paid
for each literal that was bound for one of these reasons with a clause of its own.
-/
namespace ClausalSearch

variable {F : Formula} {s t u w : State} {a b : Assignment} {c : Clause} {clauses : List Clause}
  {k l : Literal} {reason : Reason} {pool : List Nat} {e : Event} {old new : List Event}

def openClauses (clauses : List Clause) (a : Assignment) : List Clause :=
  clauses.filter fun c => ¬ c.SatisfiedBy a

theorem mem_openClauses : c ∈ openClauses clauses a ↔ c ∈ clauses ∧ ¬ c.SatisfiedBy a := by
  simp [openClauses]

section Binding

variable (bound : a.bind l = .ok b)
include bound

theorem openClauses_of_bind :
    openClauses clauses b = (openClauses clauses a).filter fun c => ¬ c.SatisfiedBy b := by
  simp only [openClauses, List.filter_filter]
  apply List.filter_congr
  intro c _
  have kept : c.SatisfiedBy a → c.SatisfiedBy b := satisfied_of_bind bound
  by_cases satisfied : c.SatisfiedBy a <;> simp [satisfied, kept]

theorem openClauses_length_le (clauses : List Clause) :
    (openClauses clauses b).length ≤ (openClauses clauses a).length := by
  rw [openClauses_of_bind bound]
  exact List.length_filter_le ..

theorem openClauses_length_lt (occurs : ∃ c ∈ clauses, ¬ c.SatisfiedBy a ∧ l ∈ c.literals) :
    (openClauses clauses b).length < (openClauses clauses a).length := by
  obtain ⟨c, member, unsatisfied, inside⟩ := occurs
  rw [openClauses_of_bind bound, List.length_filter_lt_length_iff_exists]
  refine ⟨c, mem_openClauses.2 ⟨member, unsatisfied⟩, ?_⟩
  simp [satisfied_of_bind_literal bound inside]

theorem status_of_bind_absent (inside : ∀ k ∈ c.literals, k.var < a.size)
    (absent : ∀ k ∈ c.literals, k.var ≠ l.var) : c.status b = c.status a := by
  have satisfied : c.SatisfiedBy b ↔ c.SatisfiedBy a := by
    unfold Clause.SatisfiedBy
    apply exists_congr
    intro k
    apply and_congr_right
    intro member
    have other : k ≠ l := fun same => absent k member (same ▸ rfl)
    simp [Assignment.makes_of_bind_iff bound, other]
  have unassigned : c.unassigned b = c.unassigned a := by
    apply List.filter_congr
    intro k member
    simp [Assignment.open_of_bind_iff bound, absent k member]
  have inside_after : ∀ k ∈ c.literals, k.var < b.size := by
    rw [Assignment.size_of_bind bound]
    exact inside
  simp only [status_eq inside, status_eq inside_after, satisfied, unassigned]

theorem status_of_pure_bind (covers : a.Covers clauses) (single : PureIn clauses a l)
    (member : c ∈ clauses) : c.status b = .ok .satisfied ∨ c.status b = c.status a := by
  have inside := covers c member
  by_cases satisfied : c.SatisfiedBy b
  · left
    rw [status_eq (covers_of_bind bound covers c member), if_pos satisfied]
  · right
    apply status_of_bind_absent bound inside
    intro k occurs same
    have unsatisfied : ¬ c.SatisfiedBy a := fun before => satisfied (satisfied_of_bind bound before)
    rcases Literal.eq_or_eq_negate same with rfl | rfl
    · exact satisfied (satisfied_of_bind_literal bound occurs)
    · exact single.2 c member unsatisfied occurs

theorem pure_bind_spoils_nothing (covers : a.Covers clauses) (single : PureIn clauses a l)
    (member : c ∈ clauses) :
    (c.status b = .ok .falsified → c.status a = .ok .falsified) ∧
    (c.status a = .ok .unresolved → ∀ k, c.status b ≠ .ok (.unit k)) := by
  rcases status_of_pure_bind bound covers single member with satisfied | same
  · simp [satisfied]
  · rw [same]
    constructor
    · exact id
    · intro unresolved k
      simp [unresolved]

theorem verdict_of_pure_bind (covers : a.Covers clauses) (single : PureIn clauses a l)
    (undecided : verdict? clauses a = .ok none) : verdict? clauses b ≠ .ok (some false) := by
  intro failed
  have covers_after := covers_of_bind bound covers
  obtain ⟨c, member, falsified⟩ := (verdict_eq_false_iff covers_after).1 failed
  have after := (status_eq_falsified_iff (covers_after c member)).2 falsified
  have before := (pure_bind_spoils_nothing bound covers single member).1 after
  have falsified_before := (status_eq_falsified_iff (covers c member)).1 before
  exact ((verdict_eq_none_iff covers).1 undecided).2 ⟨c, member, falsified_before⟩

end Binding

theorem committed_occurs (covers : a.Covers clauses) (chosen : Chosen pool clauses a reason l)
    (committed : reason ≠ .decision) : ∃ c ∈ clauses, ¬ c.SatisfiedBy a ∧ l ∈ c.literals := by
  cases chosen with
  | pureLiteral found => exact (findPure_pure covers found).2.1
  | unitClause impure found =>
    obtain ⟨c, member, unsatisfied, only⟩ := findUnit_unit covers found
    exact ⟨c, member, unsatisfied, (Clause.open_of_unassigned only).1⟩
  | decision => exact absurd rfl committed

/-- The events whose bindings stand after a log, in binding order: an event is bound on those that
were there below it, and all others are gone. -/
def standingAfter : List Event → List Event
  | [] => []
  | e :: older => (standingAfter older).take e.below.length ++ [e]

def Run.standing (run : Run) : List Event := standingAfter run.events.reverse

def Step.propagates : Step → Bool
  | .chosen .pureLiteral | .chosen .unitClause => true
  | .chosen .decision | .flipped => false

theorem standingAfter_subset (log : List Event) : standingAfter log ⊆ log := by
  induction log with
  | nil => simp [standingAfter]
  | cons e older ih =>
    intro f member
    simp only [standingAfter, List.mem_append, List.mem_singleton] at member
    rcases member with kept | same
    · exact List.mem_cons_of_mem e (ih (List.mem_of_mem_take kept))
    · simp [same]

theorem standingAfter_kept
    (above : ∀ e ∈ new, (standingAfter old).length ≤ e.below.length) :
    standingAfter old <+: standingAfter (new ++ old) := by
  induction new with
  | nil => exact List.prefix_rfl
  | cons e rest ih =>
    have kept := ih fun f member => above f (List.mem_cons_of_mem e member)
    have shorter := above e List.mem_cons_self
    exact (List.prefix_take_iff.2 ⟨kept, shorter⟩).trans (List.prefix_append ..)

theorem standingAfter_cons (new : List Event)
    (above : ∀ f ∈ new, (standingAfter old).length ≤ f.below.length)
    (level : e.below.length = (standingAfter old).length) :
    standingAfter (e :: (new ++ old)) = standingAfter old ++ [e] := by
  have kept := List.prefix_iff_eq_take.1 (standingAfter_kept above)
  rw [standingAfter, level, ← kept]

/-- The events that stand have bound the trail, each literal on those before it, and each that
propagated is paid for with a clause that is satisfied. -/
structure State.Paid (F : Formula) (s : State) : Prop where
  literals : (standingAfter s.log).map Event.literal = s.assignment.trail
  placed : ∀ e ∈ standingAfter s.log, e.trail <+: s.assignment.trail
  clauses : (standingAfter s.log).countP (·.step.propagates) +
    (openClauses F.clauses s.assignment).length ≤ F.clauses.length

theorem standing_length (paid : s.Paid F) :
    (standingAfter s.log).length = s.assignment.bound.length := by
  have same := congrArg List.length paid.literals
  simpa [Assignment.trail] using same

theorem initial_paid (F : Formula) : (State.initial F).Paid F := by
  refine ⟨rfl, by simp [State.initial, standingAfter], ?_⟩
  simp only [State.initial, standingAfter, List.countP_nil, Nat.zero_add]
  exact List.length_filter_le ..

theorem paid_of_bind (paid : s.Paid F) (bound : s.assignment.bind e.literal = .ok t.assignment)
    (level : e.below = s.assignment.bound)
    (standing : standingAfter t.log = standingAfter s.log ++ [e])
    (pays : e.step.propagates = true →
      ∃ c ∈ F.clauses, ¬ c.SatisfiedBy s.assignment ∧ e.literal ∈ c.literals) : t.Paid F := by
  have trail := Assignment.trail_of_bind bound
  refine ⟨?_, ?_, ?_⟩
  · simp [standing, trail, paid.literals]
  · intro f member
    rw [standing, List.mem_append, List.mem_singleton] at member
    rcases member with before | rfl
    · rw [trail]
      exact (paid.placed f before).trans (List.prefix_append ..)
    · have same : f.trail = t.assignment.trail := by
        rw [trail, Event.trail, level, List.reverse_cons, Assignment.trail]
      exact ⟨[], by rw [List.append_nil, same]⟩
  · have before := paid.clauses
    rw [standing, List.countP_append, List.countP_singleton]
    by_cases propagates : e.step.propagates = true
    · have fewer := openClauses_length_lt bound (pays propagates)
      simp only [propagates, if_true]
      omega
    · have most := openClauses_length_le bound F.clauses
      simp only [propagates, Bool.false_eq_true, if_false]
      omega

theorem standing_of_opens (paid : s.Paid F) (opened : Opens F s reason l t) :
    standingAfter t.log = standingAfter s.log ++ [⟨.chosen reason, l, s.assignment.bound⟩] := by
  rw [opened.log]
  exact standingAfter_cons [] (by simp) (standing_length paid).symm

/-- The events of the first branch, the decision included, are gone after the flip. -/
theorem standing_of_turns (paid : s.Paid F) (opened : Opens F s .decision l t)
    (first : Explores F t false u) (turned : Turns s l u w) :
    standingAfter w.log = standingAfter s.log ++ [⟨.flipped, l.negate, s.assignment.bound⟩] := by
  obtain ⟨new, log, deeper, -⟩ := explores_adds first
  have length := standing_length paid
  rw [turned.log, log, opened.log, List.append_cons]
  -- the decision and all that was logged above it are gone
  apply standingAfter_cons _ ?_ length.symm
  intro f member
  rw [List.mem_append, List.mem_singleton] at member
  rcases member with later | rfl
  · have level := deeper f later
    rw [Assignment.depth, Assignment.bound_of_bind opened.bound, List.length_cons,
      Event.depth] at level
    omega
  · exact Nat.le_of_eq length

theorem recurses_paid (canonical : s.Canonical F) (paid : s.Paid F) (call : Recurses F s t) :
    t.Paid F := by
  rcases recurses_cases canonical call with
    ⟨reason, l, opened⟩ | ⟨l, r, u, opened, first, turned⟩
  · refine paid_of_bind paid opened.bound rfl (standing_of_opens paid opened) ?_
    intro propagates
    apply committed_occurs (State.canonical_covers canonical) opened.chosen
    intro decision
    simp [decision, Step.propagates] at propagates
  · refine paid_of_bind paid turned.bound rfl (standing_of_turns paid opened first turned) ?_
    simp [Step.propagates]

theorem reached_paid (reached : Reaches F (.initial F) s) : s.Paid F := by
  induction reached with
  | refl => exact initial_paid F
  | tail before call ih =>
    exact recurses_paid (reaches_canonical (State.initial_canonical F) before) ih call

theorem found_reached (explored : Explores F (.initial F) true t) :
    ∃ r, Reaches F (.initial F) r ∧ r.log = t.log ∧ r.assignment.trail = t.assignment.trail := by
  obtain ⟨r, reached, log⟩ := explores_reaches (State.initial_canonical F) explored
    (explores_extends_log explored) List.suffix_rfl
  refine ⟨r, reached, log, ?_⟩
  rw [Assignment.trail, reached_bound_after reached, log, ← found_bound_after explored rfl rfl,
    Assignment.trail]

theorem solves_paid {run : Run} {m : Model} (solves : Solves F run true t)
    (answer : run.model = some m) :
    run.standing.map Event.literal = m.trail ∧
    (∀ e ∈ run.standing, e ∈ run.events ∧ e.trail <+: m.trail) ∧
    run.standing.countP (·.step.propagates) ≤ F.clauses.length := by
  obtain ⟨r, reached, log, trail⟩ := found_reached solves.explored
  have paid := reached_paid reached
  have standing : run.standing = standingAfter r.log := by
    rw [Run.standing, solves.events, List.reverse_reverse, log]
  have same : m.trail = r.assignment.trail := by
    rw [Model.trail, (solves_model solves answer).2.2, trail]
  refine ⟨?_, ?_, ?_⟩
  · rw [standing, same]
    exact paid.literals
  · intro e member
    rw [standing] at member
    constructor
    · rw [solves.events, List.mem_reverse, ← log]
      exact standingAfter_subset r.log member
    · rw [same]
      exact paid.placed e member
  · rw [standing]
    exact Nat.le_of_add_right_le paid.clauses

theorem propagation_progresses (F : Formula) :
    (∀ s, Reaches F (.initial F) s → ∀ reason l, reason ≠ .decision →
      choose s.pool F.clauses s.assignment = .ok (some (reason, l)) →
      ∃ position t, s.take reason l = .ok (position, t) ∧
        (openClauses F.clauses t.assignment).length <
          (openClauses F.clauses s.assignment).length ∧
        (reason = .pureLiteral →
          (∀ c ∈ F.clauses,
            (c.status t.assignment = .ok .falsified → c.status s.assignment = .ok .falsified) ∧
            (c.status s.assignment = .ok .unresolved →
              ∀ k, c.status t.assignment ≠ .ok (.unit k))) ∧
          (verdict? F.clauses s.assignment = .ok none →
            verdict? F.clauses t.assignment ≠ .ok (some false)))) ∧
    ∃ run, solve F = .ok run ∧ ∀ m, run.model = some m →
      run.standing.map Event.literal = m.trail ∧
      (∀ e ∈ run.standing, e ∈ run.events ∧ e.trail <+: m.trail) ∧
      run.standing.countP (·.step.propagates) ≤ F.clauses.length := by
  constructor
  · intro s reached reason l committed choice
    have canonical := reaches_canonical (State.initial_canonical F) reached
    have covers := State.canonical_covers canonical
    have chosen := chosen_of_choose choice
    have unset := chosen_open covers (State.canonical_pool canonical ▸ chosen)
    obtain ⟨position, t, taken, -, bound, -⟩ := take_of_open canonical unset reason
    refine ⟨position, t, taken, ?_, ?_⟩
    · exact openClauses_length_lt bound (committed_occurs covers chosen committed)
    · intro isPure
      subst isPure
      cases chosen with
      | pureLiteral found =>
        have single := (findPure_pure covers found).2
        constructor
        · intro c member
          exact pure_bind_spoils_nothing bound covers single member
        · exact verdict_of_pure_bind bound covers single
  · obtain ⟨run, found, t, solved, solves⟩ := solve_solves F
    refine ⟨run, solved, ?_⟩
    intro m answer
    obtain ⟨rfl, -⟩ := solves_model solves answer
    exact solves_paid solves answer

/-- One literal is pure from the start, and each of two decisions leaves another to propagate. -/
def braided : Formula where
  names := #["a", "b", "c", "d", "e"]
  clauses := [⟨[⟨2, true⟩, ⟨0, false⟩], by decide⟩,
    ⟨[⟨2, false⟩, ⟨1, true⟩, ⟨3, true⟩], by decide⟩,
    ⟨[⟨2, false⟩, ⟨1, false⟩, ⟨3, false⟩], by decide⟩,
    ⟨[⟨0, true⟩, ⟨1, false⟩, ⟨3, true⟩], by decide⟩, ⟨[⟨4, true⟩, ⟨0, true⟩], by decide⟩]
  ordered := by decide
  covered := by decide

theorem braided_progresses :
    choose [0, 1, 2, 3, 4] braided.clauses (.empty 5) = .ok (some (.pureLiteral, ⟨4, true⟩)) ∧
    (∃ position t, (State.initial braided).take .pureLiteral ⟨4, true⟩ = .ok (position, t) ∧
      (openClauses braided.clauses t.assignment).length <
        (openClauses braided.clauses (.empty 5)).length ∧
      verdict? braided.clauses t.assignment ≠ .ok (some false)) ∧
    ∃ run m, solve braided = .ok run ∧ run.model = some m ∧
      run.standing.map (·.step) = [.chosen .pureLiteral, .chosen .decision, .chosen .unitClause,
        .chosen .decision, .chosen .pureLiteral] ∧
      run.standing.map Event.literal = m.trail ∧
      run.standing.countP (·.step.propagates) ≤ braided.clauses.length := by
  obtain ⟨progresses, run, solved, stands⟩ := propagation_progresses braided
  have choice : choose [0, 1, 2, 3, 4] braided.clauses (.empty 5) =
      .ok (some (.pureLiteral, ⟨4, true⟩)) := by decide +kernel
  obtain ⟨position, t, taken, fewer, safe⟩ :=
    progresses (.initial braided) .refl .pureLiteral ⟨4, true⟩ (by decide) choice
  have undecided : verdict? braided.clauses (.empty 5) = .ok none := by decide +kernel
  have answer : (solve braided).map (fun run => (run.model.isSome, run.standing.map (·.step))) =
      .ok (true, [.chosen .pureLiteral, .chosen .decision, .chosen .unitClause,
        .chosen .decision, .chosen .pureLiteral]) := by decide +kernel
  have outcome := eq_of_map_eq_ok answer solved
  obtain ⟨found, steps⟩ := Prod.mk.inj outcome
  obtain ⟨m, model⟩ := Option.isSome_iff_exists.1 found
  obtain ⟨literals, -, paid⟩ := stands m model
  exact ⟨choice, ⟨position, t, taken, fewer, (safe rfl).2 undecided⟩, run, m, solved, model, steps,
    literals, paid⟩

end ClausalSearch
