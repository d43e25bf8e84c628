import ClausalSearch.Journal
import ClausalSearch.Proofs.Calls
import ClausalSearch.Proofs.Satisfiability

/-!
The trace of a search. A line of it names a binding and how many literals are bound after it; what
is undone in between is not logged. Still the lines alone give back the trail after each of them,
and they are bracketed: a flip turns one decision before it, which only deeper lines separate from
it, and all decisions of a search that finds nothing are turned.
-/
namespace ClausalSearch

variable {F : Formula} {s t u w x : State} {l : Literal} {reason : Reason} {found : Bool}
  {e d f : Event} {log older : List Event} {lines : List TraceLine} {v : Valuation} {run : Run}

structure TraceLine where
  step : Step
  literal : Literal
  depth : Nat
  deriving DecidableEq, Repr

def TraceLine.text (F : Formula) (line : TraceLine) : String :=
  s!"{line.step.text} {(F.named line.literal).text} at depth {line.depth}"

def Event.line (e : Event) : TraceLine := ⟨e.step, e.literal, e.depth⟩

/-- Cuts the trail down to the literals below the line and binds the line's literal; there is no
result where the trail is too short. -/
def TraceLine.replay (trail : List Literal) (line : TraceLine) : Option (List Literal) :=
  if line.depth - 1 ≤ trail.length then some (trail.take (line.depth - 1) ++ [line.literal])
  else none

def Run.trace (run : Run) : List TraceLine := run.events.map Event.line

/-- What is recorded at the trace level, message by message. -/
def Run.traced (F : Formula) (run : Run) : List String :=
  ((run.records F).filter (·.level = .trace)).map Record.message

def traceOf (log : List Event) : List TraceLine := log.reverse.map Event.line

def replay (lines : List TraceLine) : Option (List Literal) := lines.foldlM TraceLine.replay []

/-- Line `i` flips the decision on `var` of line `j`, and only deeper lines stand in between. -/
structure Brackets (lines : List TraceLine) (j i var depth : Nat) : Prop where
  before : j < i
  decision : lines[j]? = some ⟨.chosen .decision, ⟨var, true⟩, depth⟩
  flip : lines[i]? = some ⟨.flipped, ⟨var, false⟩, depth⟩
  deeper : ∀ k line, j < k → k < i → lines[k]? = some line → depth < line.depth

/-- The literals that are bound right after the newest event of a log, newest first. -/
def boundAfter : List Event → List Literal
  | [] => []
  | e :: _ => e.literal :: e.below

/-- The event `f` flips the decision `d` above the same literals, and what was logged between the
two is deeper. -/
structure Answers (d : Event) (between : List Event) (f : Event) : Prop where
  decision : d.step = .chosen .decision
  positive : d.literal.positive = true
  flip : f.step = .flipped
  opposite : f.literal = d.literal.negate
  level : f.below = d.below
  deeper : ∀ e ∈ between, d.depth < e.depth

/-- What an event owes to the log before it: it stands on literals that are bound there, and if it
is a flip it answers a decision that no satisfying valuation agrees with. -/
structure Coheres (F : Formula) (older : List Event) (e : Event) : Prop where
  kept : e.below <:+ boundAfter older
  answers : e.step = .flipped →
    ∃ between d rest, older = between ++ d :: rest ∧ Answers d between e
  refuted : e.step = .flipped → ∀ v : Valuation, (∀ k ∈ e.below, k.Holds v) →
    e.literal.negate.Holds v → ¬ F.Holds v

def Coherent (F : Formula) (log : List Event) : Prop :=
  ∀ e older, e :: older <:+ log → Coheres F older e

theorem event_text (e : Event) : e.text F = e.line.text F := rfl

theorem traced_eq (F : Formula) (run : Run) :
    run.traced F = run.trace.map (TraceLine.text F) := by
  have traced : (run.events.map fun e => (⟨.trace, .search, e.text F⟩ : Record)).filter
      (·.level = .trace) = run.events.map fun e => ⟨.trace, .search, e.text F⟩ :=
    List.filter_eq_self.2 (by simp)
  rw [Run.traced, Run.records, List.filter_append, traced, List.filter_cons_of_neg (by simp),
    List.filter_nil, List.append_nil, List.map_map, Run.trace, List.map_map]
  exact List.map_congr_left fun e _ => event_text e

theorem coherent_nil : Coherent F [] := by
  intro e older within
  cases List.suffix_nil.1 within

theorem coherent_cons : Coherent F (e :: log) ↔ Coheres F log e ∧ Coherent F log := by
  constructor
  · intro every
    refine ⟨every e log List.suffix_rfl, fun e' older within => ?_⟩
    exact every e' older (within.trans (List.suffix_cons ..))
  · rintro ⟨newest, every⟩ e' older within
    rcases List.suffix_cons_iff.1 within with same | within
    · cases same
      exact newest
    · exact every e' older within

theorem bound_after_of_opens (opened : Opens F s reason l t) :
    t.assignment.bound = boundAfter t.log := by
  rw [opened.log, Assignment.bound_of_bind opened.bound, boundAfter]

theorem bound_after_of_turns (turned : Turns s l u w) :
    w.assignment.bound = boundAfter w.log := by
  rw [turned.log, Assignment.bound_of_bind turned.bound, boundAfter]

theorem extends_iff_trail {a : Assignment} {n : Nat} (legal : a.Legal n) :
    v.Extends a ↔ ∀ k ∈ a.bound, k.Holds v := by
  induction legal with
  | empty => exact iff_of_true (extends_empty v n) (by simp [Assignment.empty])
  | bind legal bound ih =>
    rw [extends_of_bind_iff bound, ih, Assignment.bound_of_bind bound, List.forall_mem_cons]
    exact and_comm

/-- Logs in which every decision is answered: those of explorations that find nothing. -/
inductive AllAnswered : List Event → Prop where
  | nil : AllAnswered []
  | append {later earlier : List Event} (last : AllAnswered later) (first : AllAnswered earlier) :
      AllAnswered (later ++ earlier)
  | committed {e : Event} (other : e.step ≠ .chosen .decision) : AllAnswered [e]
  | answered {d f : Event} {between : List Event} (inner : AllAnswered between)
      (answers : Answers d between f) : AllAnswered (f :: (between ++ [d]))

/-- The log that an exploration adds is deeper than the state where it starts, and if nothing is
found all decisions in it are answered. -/
def Adds (s : State) (found : Bool) (t : State) : Prop :=
  ∃ new, t.log = new ++ s.log ∧ (∀ e ∈ new, s.assignment.depth < e.depth) ∧
    (found = false → AllAnswered new)

theorem answers_of_turns (opened : Opens F s .decision l t) (turned : Turns s l u w)
    {between : List Event} (deeper : ∀ e ∈ between, t.assignment.depth < e.depth) :
    Answers ⟨.chosen .decision, l, s.assignment.bound⟩ between
      ⟨.flipped, l.negate, s.assignment.bound⟩ := by
  have positive : l.positive = true := by
    cases opened.chosen
    rfl
  refine ⟨rfl, positive, rfl, rfl, rfl, fun e member => ?_⟩
  have below := deeper e member
  rw [Assignment.depth, Assignment.bound_of_bind opened.bound] at below
  exact below

theorem opens_adds (opened : Opens F s reason l t) (committed : found = false → reason ≠ .decision)
    (below : Adds t found u) : Adds s found u := by
  obtain ⟨new, log, deeper, answered⟩ := below
  refine ⟨new ++ [⟨.chosen reason, l, s.assignment.bound⟩], ?_, ?_, fun failed => ?_⟩
  · rw [log, opened.log, List.append_assoc, List.singleton_append]
  · have lower : s.assignment.depth < t.assignment.depth := by
      simp [Assignment.depth, Assignment.bound_of_bind opened.bound]
    rw [List.forall_mem_append, List.forall_mem_singleton]
    exact ⟨fun e member => Nat.lt_trans lower (deeper e member), Nat.lt_succ_self _⟩
  · exact .append (answered failed) (.committed (by simpa using committed failed))

theorem turns_adds (opened : Opens F s .decision l t) (first : Adds t false u)
    (turned : Turns s l u w) (second : Adds w found x) : Adds s found x := by
  obtain ⟨new, log, deeper, answered⟩ := first
  obtain ⟨new', log', deeper', answered'⟩ := second
  have answers := answers_of_turns opened turned deeper
  have lower {r : State} {k : Literal} (bound : s.assignment.bind k = .ok r.assignment) :
      s.assignment.depth < r.assignment.depth := by
    simp [Assignment.depth, Assignment.bound_of_bind bound]
  refine ⟨new' ++ (⟨.flipped, l.negate, s.assignment.bound⟩ ::
    (new ++ [⟨.chosen .decision, l, s.assignment.bound⟩])), ?_, ?_, fun failed => ?_⟩
  · rw [log', turned.log, log, opened.log]
    simp
  · intro e member
    simp only [List.mem_append, List.mem_cons, List.not_mem_nil, or_false] at member
    rcases member with member | rfl | member | rfl
    · exact Nat.lt_trans (lower turned.bound) (deeper' e member)
    · exact Nat.lt_succ_self _
    · exact Nat.lt_trans (lower opened.bound) (deeper e member)
    · exact Nat.lt_succ_self _
  · exact .append (answered' failed) (.answered (answered rfl) answers)

theorem explores_adds (run : Explores F s found t) : Adds s found t := by
  induction run with
  | settled verdict => exact ⟨[], rfl, by simp, fun _ => .nil⟩
  | found opened below ih => exact opens_adds opened (by simp) ih
  | abandoned opened committed below ih => exact opens_adds opened (fun _ => committed) ih
  | flipped opened first turned second first_ih second_ih =>
    exact turns_adds opened first_ih turned second_ih
  | exhausted opened first turned second first_ih second_ih =>
    exact turns_adds opened first_ih turned second_ih

theorem opens_coherent (opened : Opens F s reason l t) (coherent : Coherent F s.log)
    (kept : s.assignment.bound <:+ boundAfter s.log) : Coherent F t.log := by
  rw [opened.log, coherent_cons]
  exact ⟨⟨kept, by simp, by simp⟩, coherent⟩

theorem turns_coherent (canonical : s.Canonical F) (opened : Opens F s .decision l t)
    (first : Explores F t false u) (turned : Turns s l u w) (coherent : Coherent F u.log)
    (kept : t.assignment.bound <:+ boundAfter u.log) : Coherent F w.log := by
  obtain ⟨new, log, deeper, -⟩ := explores_adds first
  have below : s.assignment.bound <:+ t.assignment.bound := by
    rw [Assignment.bound_of_bind opened.bound]
    exact List.suffix_cons ..
  rw [turned.log, coherent_cons]
  refine ⟨⟨below.trans kept, fun _ => ?_, fun _ v before same holds => ?_⟩, coherent⟩
  · rw [log, opened.log]
    exact ⟨new, _, s.log, rfl, answers_of_turns opened turned deeper⟩
  · have above : v.Extends t.assignment := by
      rw [extends_of_bind_iff opened.bound, extends_iff_trail canonical.legal]
      exact ⟨before, l.negate_negate ▸ same⟩
    exact explores_refutes (opens_canonical canonical opened) first rfl v above holds

theorem explores_coherent (canonical : s.Canonical F) (run : Explores F s found t)
    (coherent : Coherent F s.log) (kept : s.assignment.bound <:+ boundAfter s.log) :
    Coherent F t.log ∧ s.assignment.bound <:+ boundAfter t.log := by
  induction run with
  | settled verdict => exact ⟨coherent, kept⟩
  | found opened below ih | abandoned opened committed below ih =>
    obtain ⟨later, still⟩ := ih (opens_canonical canonical opened)
      (opens_coherent opened coherent kept) (bound_after_of_opens opened ▸ List.suffix_rfl)
    rw [Assignment.bound_of_bind opened.bound] at still
    exact ⟨later, (List.suffix_cons ..).trans still⟩
  | flipped opened first turned second first_ih second_ih
  | exhausted opened first turned second first_ih second_ih =>
    obtain ⟨between, still⟩ := first_ih (opens_canonical canonical opened)
      (opens_coherent opened coherent kept) (bound_after_of_opens opened ▸ List.suffix_rfl)
    obtain ⟨later, still⟩ := second_ih (turns_canonical canonical turned)
      (turns_coherent canonical opened first turned between still)
      (bound_after_of_turns turned ▸ List.suffix_rfl)
    rw [Assignment.bound_of_bind turned.bound] at still
    exact ⟨later, (List.suffix_cons ..).trans still⟩

theorem found_bound_after (run : Explores F s found t) (success : found = true)
    (start : s.assignment.bound = boundAfter s.log) :
    t.assignment.bound = boundAfter t.log := by
  induction run with
  | settled verdict => exact start
  | found opened below ih => exact ih rfl (bound_after_of_opens opened)
  | flipped opened first turned second _ ih => exact ih rfl (bound_after_of_turns turned)
  | abandoned opened committed below => cases success
  | exhausted opened first turned second => cases success

theorem bound_after_of_recurses (canonical : s.Canonical F) (call : Recurses F s t) :
    t.assignment.bound = boundAfter t.log := by
  rcases recurses_cases canonical call with ⟨_, _, opened⟩ | ⟨_, _, _, _, _, turned⟩
  · exact bound_after_of_opens opened
  · exact bound_after_of_turns turned

theorem reached_bound_after (reached : Reaches F (.initial F) s) :
    s.assignment.bound = boundAfter s.log := by
  cases reached with
  | refl => rfl
  | tail before call =>
    exact bound_after_of_recurses (reaches_canonical (State.initial_canonical F) before) call

theorem replay_line {trail : List Literal} (kept : e.below <:+ trail) :
    e.line.replay trail.reverse = some (e.literal :: e.below).reverse := by
  obtain ⟨upper, rfl⟩ := kept
  rw [TraceLine.replay, Event.line, Event.depth]
  simp

theorem replay_log (coherent : Coherent F log) :
    replay (traceOf log) = some (boundAfter log).reverse := by
  induction log with
  | nil => rfl
  | cons e older ih =>
    obtain ⟨newest, coherent⟩ := coherent_cons.1 coherent
    have before := ih coherent
    rw [replay, traceOf] at before ⊢
    rw [List.reverse_cons, List.map_append, List.foldlM_append, before]
    simp only [List.map_cons, List.map_nil, List.foldlM_cons, List.foldlM_nil, bind_pure]
    exact replay_line newest.kept

theorem split_append {later rest xs ys : List Event} (split : xs ++ ys = later ++ d :: rest) :
    (∃ before, later = xs ++ before ∧ ys = before ++ d :: rest) ∨
      ∃ after, xs = later ++ d :: after := by
  rcases List.append_eq_append_iff.1 split with ⟨before, same, inner⟩ | ⟨lower, rfl, inner⟩
  · exact .inl ⟨before, same, inner⟩
  · rcases List.cons_eq_append_iff.1 inner with ⟨rfl, same⟩ | ⟨after, rfl, -⟩
    · exact .inl ⟨[], by simp, same⟩
    · exact .inr ⟨after, rfl⟩

theorem answered_later (answered : AllAnswered log) {later rest : List Event}
    (split : log = later ++ d :: rest) (decision : d.step = .chosen .decision) :
    ∃ after f between, later = after ++ f :: between ∧ Answers d between f := by
  induction answered generalizing later rest with
  | nil => simp at split
  | append last first last_ih first_ih =>
    rcases split_append split with ⟨before, rfl, inner⟩ | ⟨after, inner⟩
    · obtain ⟨after, f, between, rfl, answers⟩ := first_ih inner
      exact ⟨_ ++ after, f, between, (List.append_assoc ..).symm, answers⟩
    · exact last_ih inner
  | committed other =>
    rcases List.cons_eq_append_iff.1 split with ⟨rfl, same⟩ | ⟨before, rfl, absent⟩
    · cases same
      exact absurd decision other
    · simp at absent
  | @answered d' f between inner answers ih =>
    rcases List.cons_eq_append_iff.1 split with ⟨rfl, same⟩ | ⟨before, rfl, same⟩
    · cases same
      rw [answers.flip] at decision
      cases decision
    · rcases split_append same with ⟨upper, rfl, single⟩ | ⟨after, single⟩
      · rcases List.cons_eq_append_iff.1 single with ⟨rfl, last⟩ | ⟨_, rfl, absent⟩
        · cases last
          exact ⟨[], f, between, by simp, answers⟩
        · simp at absent
      · obtain ⟨after, g, within, rfl, found⟩ := ih single
        exact ⟨f :: after, g, within, rfl, found⟩

theorem event_of_line {i : Nat} {line : TraceLine} (listed : (traceOf log)[i]? = some line) :
    ∃ later e older, log = later ++ e :: older ∧ older.length = i ∧ e.line = line := by
  rw [traceOf, List.getElem?_map, Option.map_eq_some_iff] at listed
  obtain ⟨e, listed, same⟩ := listed
  obtain ⟨inside, entry⟩ := List.getElem?_eq_some_iff.1 listed
  refine ⟨(log.reverse.drop (i + 1)).reverse, e, (log.reverse.take i).reverse, ?_, ?_, same⟩
  · rw [← List.reverse_inj, List.reverse_append, List.reverse_cons, List.reverse_reverse,
      List.reverse_reverse, List.append_assoc, List.singleton_append, ← entry,
      List.getElem_cons_drop, List.take_append_drop]
  · rw [List.length_reverse, List.length_take_of_le (Nat.le_of_lt inside)]

/-- Positions are counted from the oldest event, so the log is read backwards here. -/
theorem brackets_of_answers (after older : List Event) {between : List Event}
    (answers : Answers d between f) :
    Brackets (traceOf (after ++ f :: (between ++ d :: older))) older.length
      (older.length + 1 + between.length) d.literal.var d.depth := by
  have opened : d.line = ⟨.chosen .decision, ⟨d.literal.var, true⟩, d.depth⟩ := by
    rw [Event.line, answers.decision, ← answers.positive]
  have closed : f.line = ⟨.flipped, ⟨d.literal.var, false⟩, d.depth⟩ := by
    rw [Event.line, answers.flip, answers.opposite, Literal.negate, answers.positive, Event.depth,
      answers.level]
    rfl
  have lines : traceOf (after ++ f :: (between ++ d :: older)) =
      traceOf older ++ d.line :: (traceOf between ++ f.line :: traceOf after) := by
    simp [traceOf]
  have start : older.length = (traceOf older).length := by simp [traceOf]
  have inner : between.length = (traceOf between).length := by simp [traceOf]
  have shift : ∀ n, (traceOf older ++ d.line :: (traceOf between ++ f.line :: traceOf after))[
      older.length + 1 + n]? = (traceOf between ++ f.line :: traceOf after)[n]? := by
    intro n
    rw [start, List.getElem?_append_right (by omega), Nat.add_assoc, Nat.add_sub_cancel_left,
      Nat.add_comm 1 n, List.getElem?_cons_succ]
  rw [lines]
  refine ⟨by omega, ?_, ?_, fun k line above below listed => ?_⟩
  · rw [start, List.getElem?_append_right (Nat.le_refl _), Nat.sub_self, opened]
    rfl
  · rw [shift, inner, List.getElem?_append_right (Nat.le_refl _), Nat.sub_self, closed]
    rfl
  · obtain ⟨n, rfl⟩ := Nat.exists_eq_add_of_le (show older.length + 1 ≤ k by omega)
    rw [shift, List.getElem?_append_left (by omega)] at listed
    obtain ⟨e, member, rfl⟩ := List.mem_map.1 (List.mem_of_getElem? listed)
    exact answers.deeper e (List.mem_reverse.1 member)

theorem brackets_unique {j j' i var var' depth depth' : Nat} (first : Brackets lines j i var depth)
    (second : Brackets lines j' i var' depth') : j = j' := by
  have same := first.flip.symm.trans second.flip
  cases same
  -- the later decision would stand between the other one and the flip, at their own depth
  rcases Nat.lt_trichotomy j j' with before | eq | after
  · have deeper := first.deeper j' _ before second.before second.decision
    exact absurd deeper (Nat.lt_irrefl _)
  · exact eq
  · have deeper := second.deeper j _ after first.before first.decision
    exact absurd deeper (Nat.lt_irrefl _)

theorem brackets_answer_unique {j i i' var var' depth depth' : Nat}
    (first : Brackets lines j i var depth) (second : Brackets lines j i' var' depth') : i = i' := by
  have same := first.decision.symm.trans second.decision
  cases same
  rcases Nat.lt_trichotomy i i' with before | eq | after
  · have deeper := second.deeper i _ first.before before first.flip
    exact absurd deeper (Nat.lt_irrefl _)
  · exact eq
  · have deeper := first.deeper i' _ second.before after second.flip
    exact absurd deeper (Nat.lt_irrefl _)

theorem trace_of_solves (solves : Solves F run found t) : run.trace = traceOf t.log := by
  rw [Run.trace, solves.events, traceOf]

theorem solves_coherent (solves : Solves F run found t) : Coherent F t.log :=
  (explores_coherent (State.initial_canonical F) solves.explored coherent_nil
    List.suffix_rfl).1

theorem coherent_of_suffix (coherent : Coherent F log) (within : older <:+ log) :
    Coherent F older :=
  fun e rest newest => coherent e rest (newest.trans within)

/-- After every line the search is called on a state that has just that trail. -/
theorem trace_reaches (solves : Solves F run found t) (i : Nat) :
    ∃ s, Reaches F (.initial F) s ∧ s.log.reverse = run.events.take i ∧
      replay (run.trace.take i) = some s.assignment.trail := by
  have within : (run.events.take i).reverse <:+ t.log := by
    rw [← List.reverse_reverse t.log, ← solves.events, List.reverse_suffix]
    exact List.take_prefix ..
  obtain ⟨s, reached, log⟩ := explores_reaches (State.initial_canonical F) solves.explored
    List.nil_suffix within
  have events : s.log.reverse = run.events.take i := by rw [log, List.reverse_reverse]
  have coherent := coherent_of_suffix (solves_coherent solves) (log ▸ within)
  refine ⟨s, reached, events, ?_⟩
  rw [Run.trace, ← List.map_take, ← events, ← traceOf, replay_log coherent,
    ← reached_bound_after reached, Assignment.trail]

theorem trace_take (later : List Event) :
    (traceOf (later ++ e :: older)).take (older.length + 1) = traceOf (e :: older) := by
  rw [traceOf, ← List.map_take, List.reverse_append]
  congr 1
  exact List.take_left' (by simp)

theorem flip_brackets (coherent : Coherent F log) {i depth : Nat}
    (listed : (traceOf log)[i]? = some ⟨.flipped, l, depth⟩) :
    l.positive = false ∧ (∃ j, Brackets (traceOf log) j i l.var depth) ∧
      ∃ trail, replay ((traceOf log).take (i + 1)) = some trail ∧
        ∀ v, F.Holds v → ¬ ∀ k ∈ trail.take (depth - 1) ++ [l.negate], k.Holds v := by
  obtain ⟨later, f, older, rfl, rfl, line⟩ := event_of_line listed
  simp only [Event.line, TraceLine.mk.injEq] at line
  obtain ⟨flip, rfl, rfl⟩ := line
  have within : f :: older <:+ later ++ f :: older := List.suffix_append ..
  have newest := coherent f older within
  obtain ⟨between, d, rest, rfl, answers⟩ := newest.answers flip
  refine ⟨?_, ⟨rest.length, ?_⟩, (f.literal :: f.below).reverse, ?_, fun v holds above => ?_⟩
  · rw [answers.opposite, Literal.negate, answers.positive]
    rfl
  · have brackets := brackets_of_answers later rest answers
    have place : (between ++ d :: rest).length = rest.length + 1 + between.length := by
      rw [List.length_append, List.length_cons, Nat.add_comm]
    have level : f.depth = d.depth := by rw [Event.depth, answers.level, Event.depth]
    rw [answers.opposite, place, level]
    exact brackets
  · rw [trace_take]
    exact replay_log (coherent_of_suffix coherent within)
  · rw [List.forall_mem_append, List.forall_mem_singleton] at above
    refine newest.refuted flip v (fun k member => above.1 k ?_) above.2 holds
    simpa [Event.depth] using member

theorem decision_brackets (answered : AllAnswered log) {j depth : Nat}
    (listed : (traceOf log)[j]? = some ⟨.chosen .decision, l, depth⟩) :
    ∃ i, Brackets (traceOf log) j i l.var depth := by
  obtain ⟨later, d, older, split, rfl, line⟩ := event_of_line listed
  simp only [Event.line, TraceLine.mk.injEq] at line
  obtain ⟨decision, rfl, rfl⟩ := line
  obtain ⟨after, f, between, rfl, answers⟩ := answered_later answered split decision
  have brackets := brackets_of_answers after older answers
  rw [← List.cons_append, ← List.append_assoc, ← split] at brackets
  exact ⟨_, brackets⟩

theorem replay_of_model (solves : Solves F run found t) {m : Model} (answer : run.model = some m) :
    replay run.trace = some m.trail := by
  obtain ⟨success, -, assignment⟩ := solves_model solves answer
  rw [trace_of_solves solves, replay_log (solves_coherent solves),
    ← found_bound_after solves.explored success rfl, Model.trail, assignment, Assignment.trail]

theorem allAnswered_of_unsolved (solves : Solves F run found t) (unsolved : run.model = none) :
    AllAnswered t.log := by
  obtain ⟨new, log, -, answered⟩ := explores_adds solves.explored
  rw [log]
  exact .append (answered (solves_unsolved solves unsolved)) .nil

theorem trace_replays_and_brackets (F : Formula) : ∃ run, solve F = .ok run ∧
    run.traced F = run.trace.map (TraceLine.text F) ∧
    (∀ i, ∃ s, Reaches F (.initial F) s ∧ s.log.reverse = run.events.take i ∧
      replay (run.trace.take i) = some s.assignment.trail) ∧
    (∀ m, run.model = some m → replay run.trace = some m.trail) ∧
    (F.Satisfiable → ∃ m, run.model = some m ∧ replay run.trace = some m.trail) ∧
    (∀ i l depth, run.trace[i]? = some ⟨.flipped, l, depth⟩ →
      l.positive = false ∧ (∃! j, Brackets run.trace j i l.var depth) ∧
      ∃ trail, replay (run.trace.take (i + 1)) = some trail ∧
        ∀ v, F.Holds v → ¬ ∀ k ∈ trail.take (depth - 1) ++ [l.negate], k.Holds v) ∧
    (∀ j i i' var depth, Brackets run.trace j i var depth → Brackets run.trace j i' var depth →
      i = i') ∧
    (run.model = none → ∀ j l depth, run.trace[j]? = some ⟨.chosen .decision, l, depth⟩ →
      ∃ i, Brackets run.trace j i l.var depth) := by
  obtain ⟨run, found, t, solved, solves⟩ := solve_solves F
  have trace := trace_of_solves solves
  refine ⟨run, solved, traced_eq F run, trace_reaches solves, fun m => replay_of_model solves,
    fun satisfiable => ?_, fun i l depth listed => ?_,
    fun j i i' var depth => brackets_answer_unique, fun unsolved j l depth listed => ?_⟩
  · obtain ⟨m, answer⟩ := Option.isSome_iff_exists.1 ((model_of_satisfiable solves).1.2 satisfiable)
    exact ⟨m, answer, replay_of_model solves answer⟩
  · rw [trace] at listed ⊢
    obtain ⟨negative, ⟨j, brackets⟩, refuted⟩ := flip_brackets (solves_coherent solves) listed
    exact ⟨negative, ⟨j, brackets, fun _ other => brackets_unique other brackets⟩, refuted⟩
  · rw [trace] at listed ⊢
    exact decision_brackets (allAnswered_of_unsolved solves unsolved) listed

example : (solve forked).map (fun run => (run.trace.map (·.depth), replay run.trace)) =
    .ok ([1, 2, 1, 2, 3, 4], some [⟨0, false⟩, ⟨1, true⟩, ⟨2, true⟩, ⟨3, false⟩]) := by
  decide +kernel

end ClausalSearch
