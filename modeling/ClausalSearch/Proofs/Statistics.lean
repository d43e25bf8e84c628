import ClausalSearch.Journal
import ClausalSearch.Proofs.Satisfiability

/-!
The counters of a search. Every binding for a reason is still there at the end or was given back,
and a decision is given back once for both its signs: so the counters balance with the trail. Each
counter is the number of lines that the trace has of its kind, and flips are decisions whose first
sign has failed.
-/
namespace ClausalSearch

variable {F : Formula} {s t u w x : State} {l : Literal} {reason : Reason} {found : Bool}
  {run : Run}

namespace Stats

variable (stats : Stats)

def counter : Reason → Nat
  | .pureLiteral => stats.pureLiterals
  | .unitClause => stats.unitPropagations
  | .decision => stats.decisions

def bindings : Nat := stats.pureLiterals + stats.unitPropagations + stats.decisions

theorem counter_count (reason other : Reason) :
    (stats.count reason).counter other = stats.counter other + if reason = other then 1 else 0 := by
  cases reason <;> cases other <;> rfl

theorem bindings_count (reason : Reason) : (stats.count reason).bindings = stats.bindings + 1 := by
  cases reason <;> simp only [count, bindings] <;> omega

@[simp] theorem backtracks_count (reason : Reason) :
    (stats.count reason).backtracks = stats.backtracks := by
  cases reason <;> rfl

end Stats

/-- Every binding made for a reason is in place or was given back. -/
def State.Conserved (s : State) : Prop :=
  s.stats.bindings = s.stats.backtracks + s.assignment.depth

theorem depth_of_bind {a b : Assignment} (bound : a.bind l = .ok b) : b.depth = a.depth + 1 := by
  rw [Assignment.depth, Assignment.bound_of_bind bound, List.length_cons, Assignment.depth]

theorem opens_conserved (opened : Opens F s reason l t) (conserved : s.Conserved) :
    t.Conserved := by
  unfold State.Conserved at conserved ⊢
  rw [opened.stats, Stats.bindings_count, Stats.backtracks_count, depth_of_bind opened.bound]
  omega

/-- The flip replaces a binding, and neither is counted. -/
theorem turns_conserved (opened : Opens F s .decision l t) (first : Explores F t false u)
    (turned : Turns s l u w) (conserved : u.Conserved) : w.Conserved := by
  obtain ⟨-, assignment⟩ := explores_restores first
  unfold State.Conserved at conserved ⊢
  rw [assignment, depth_of_bind opened.bound] at conserved
  rw [turned.stats, depth_of_bind turned.bound]
  exact conserved

theorem givenBack_conserved {k : Literal} (bound : s.assignment.bind k = .ok u.assignment)
    (conserved : u.Conserved) : (s.givenBack u).Conserved := by
  unfold State.Conserved at conserved ⊢
  rw [depth_of_bind bound] at conserved
  have bindings : (s.givenBack u).stats.bindings = u.stats.bindings := rfl
  have backtracks : (s.givenBack u).stats.backtracks = u.stats.backtracks + 1 := rfl
  have depth : (s.givenBack u).assignment.depth = s.assignment.depth := rfl
  omega

theorem explores_conserved (explored : Explores F s found t) (conserved : s.Conserved) :
    t.Conserved := by
  induction explored with
  | settled verdict => exact conserved
  | found opened below ih => exact ih (opens_conserved opened conserved)
  | abandoned opened committed below ih =>
    obtain ⟨-, assignment⟩ := explores_restores below
    have bound := opened.bound
    rw [← assignment] at bound
    exact givenBack_conserved bound (ih (opens_conserved opened conserved))
  | flipped opened first turned second first_ih second_ih =>
    have between := first_ih (opens_conserved opened conserved)
    exact second_ih (turns_conserved opened first turned between)
  | exhausted opened first turned second first_ih second_ih =>
    have between := first_ih (opens_conserved opened conserved)
    obtain ⟨-, assignment⟩ := explores_restores second
    have bound := turned.bound
    rw [← assignment] at bound
    exact givenBack_conserved bound (second_ih (turns_conserved opened first turned between))

def events (step : Step) (log : List Event) : Nat := log.countP (·.step = step)

def State.Counted (s : State) : Prop :=
  ∀ reason, events (.chosen reason) s.log = s.stats.counter reason

theorem opens_counted (opened : Opens F s reason l t) (counted : s.Counted) : t.Counted := by
  intro other
  rw [opened.log, opened.stats, Stats.counter_count, ← counted other, events, List.countP_cons,
    events]
  simp

theorem turns_counted (turned : Turns s l u w) (counted : u.Counted) : w.Counted := by
  intro reason
  rw [turned.log, turned.stats, ← counted reason, events, List.countP_cons_of_neg (by simp), events]

theorem explores_counted (explored : Explores F s found t) (counted : s.Counted) : t.Counted := by
  induction explored with
  | settled verdict => exact counted
  | found opened below ih | abandoned opened committed below ih =>
    exact ih (opens_counted opened counted)
  | flipped opened first turned second first_ih second_ih
  | exhausted opened first turned second first_ih second_ih =>
    exact second_ih (turns_counted turned (first_ih (opens_counted opened counted)))

theorem opens_flips (opened : Opens F s reason l t) :
    events .flipped t.log = events .flipped s.log := by
  rw [opened.log, events, List.countP_cons_of_neg (by simp), events]

theorem opens_decisions (opened : Opens F s reason l t) :
    t.stats.decisions = s.stats.decisions + if reason = .decision then 1 else 0 := by
  rw [opened.stats]
  exact Stats.counter_count s.stats reason .decision

theorem turns_flips (turned : Turns s l u w) :
    events .flipped w.log = events .flipped u.log + 1 := by
  rw [turned.log, events, List.countP_cons_of_pos (by simp), events]

@[simp] theorem givenBack_log (s u : State) : (s.givenBack u).log = u.log := rfl

@[simp] theorem givenBack_decisions (s u : State) :
    (s.givenBack u).stats.decisions = u.stats.decisions := rfl

theorem explores_flips (explored : Explores F s found t) :
    events .flipped t.log + s.stats.decisions ≤ events .flipped s.log + t.stats.decisions ∧
      (found = false →
        events .flipped t.log + s.stats.decisions = events .flipped s.log + t.stats.decisions) := by
  induction explored with
  | settled verdict => exact ⟨Nat.le_refl _, fun _ => rfl⟩
  | found opened below ih =>
    have flips := opens_flips opened
    have decisions := opens_decisions opened
    exact ⟨by omega, by simp⟩
  | abandoned opened committed below ih =>
    have flips := opens_flips opened
    have decisions := opens_decisions opened
    have balance := ih.2 rfl
    rw [if_neg committed] at decisions
    rw [givenBack_log, givenBack_decisions]
    omega
  | flipped opened first turned second first_ih second_ih =>
    have flips := opens_flips opened
    have decisions := opens_decisions opened
    have balance := first_ih.2 rfl
    have flip := turns_flips turned
    rw [turned.stats] at second_ih
    rw [if_pos rfl] at decisions
    exact ⟨by omega, by simp⟩
  | exhausted opened first turned second first_ih second_ih =>
    have flips := opens_flips opened
    have decisions := opens_decisions opened
    have balance := first_ih.2 rfl
    have flip := turns_flips turned
    have rest := second_ih.2 rfl
    rw [turned.stats] at rest
    rw [if_pos rfl] at decisions
    rw [givenBack_log, givenBack_decisions]
    omega

def firstWord (line : String) : List Char := line.toList.takeWhile (· ≠ ' ')

def Run.traceCount (F : Formula) (run : Run) (word : String) : Nat :=
  (run.records F).countP fun r => r.level = .trace ∧ firstWord r.message = word.toList

theorem firstWord_text (e : Event) : firstWord (e.text F) = e.step.text.toList := by
  have line : (e.text F).toList = e.step.text.toList ++
      ' ' :: ((F.named e.literal).text ++ " at depth " ++ toString e.depth).toList := by
    simp [Event.text, toString]
  have word : ∀ c ∈ e.step.text.toList, decide (c ≠ ' ') = true := by
    rcases e.step with (_ | _ | _) | _ <;> simp [Step.text]
  rw [firstWord, line, List.takeWhile_append_of_pos word, List.takeWhile_cons_of_neg (by simp),
    List.append_nil]

theorem step_text_inj {first second : Step} (same : first.text.toList = second.text.toList) :
    first = second := by
  rcases first with (_ | _ | _) | _ <;> rcases second with (_ | _ | _) | _ <;>
    simp [Step.text] at same ⊢

theorem traceCount_eq (step : Step) :
    run.traceCount F step.text = events step run.events := by
  have traced (e : Event) : (decide (Level.trace = .trace ∧
      firstWord (e.text F) = step.text.toList)) = decide (e.step = step) := by
    rw [firstWord_text, decide_eq_decide]
    exact ⟨fun h => step_text_inj h.2, fun h => ⟨rfl, h ▸ rfl⟩⟩
  rw [Run.traceCount, Run.records, List.countP_append, List.countP_map,
    List.countP_cons_of_neg (by simp), events]
  exact List.countP_congr fun e _ => by simpa using congrArg (· = true) (traced e)

theorem model_length (solves : Solves F run found t) :
    (run.model.elim 0 fun m => m.trail.length) = t.assignment.depth := by
  have model := solves.model
  cases found with
  | true =>
    obtain ⟨m, model, -, assignment⟩ := model
    rw [model, Option.elim_some, Model.trail, assignment, Assignment.trail, List.length_reverse,
      Assignment.depth]
  | false =>
    obtain ⟨-, assignment⟩ := explores_restores solves.explored
    rw [if_neg Bool.false_ne_true] at model
    rw [model, assignment]
    rfl

theorem stats_conserved (F : Formula) : ∃ run, solve F = .ok run ∧
    run.stats.pureLiterals + run.stats.unitPropagations + run.stats.decisions =
      run.stats.backtracks + (run.model.elim 0 fun m => m.trail.length) ∧
    run.traceCount F "Pure" = run.stats.pureLiterals ∧
    run.traceCount F "Unit" = run.stats.unitPropagations ∧
    run.traceCount F "Decision" = run.stats.decisions ∧
    run.traceCount F "Flip" ≤ run.stats.decisions ∧
    (run.model = none → run.traceCount F "Flip" = run.stats.decisions) := by
  obtain ⟨run, found, t, solved, solves⟩ := solve_solves F
  have conserved : t.Conserved := explores_conserved solves.explored rfl
  have counted : t.Counted := explores_counted solves.explored fun reason => by cases reason <;> rfl
  obtain ⟨atMost, exact⟩ := explores_flips solves.explored
  have count (step : Step) : run.traceCount F step.text = events step t.log := by
    rw [traceCount_eq, solves.events, events, List.countP_reverse, events]
  refine ⟨run, solved, ?_, ?_, ?_, ?_, ?_, fun unsolved => ?_⟩
  · rw [model_length solves, solves.stats]
    exact conserved
  · rw [solves.stats]
    exact (count (.chosen .pureLiteral)).trans (counted .pureLiteral)
  · rw [solves.stats]
    exact (count (.chosen .unitClause)).trans (counted .unitClause)
  · rw [solves.stats]
    exact (count (.chosen .decision)).trans (counted .decision)
  · change run.traceCount F Step.flipped.text ≤ _
    rw [count, solves.stats]
    simpa [State.initial, events] using atMost
  · change run.traceCount F Step.flipped.text = _
    rw [count, solves.stats]
    simpa [State.initial, events] using exact (solves_unsolved solves unsolved)

end ClausalSearch
