import ClausalSearch.Journal
import ClausalSearch.Proofs.Calls
import ClausalSearch.Proofs.Safety

/-!
Formulas on which the search runs alike. A search looks at its clauses through their verdict and
through the literals that are pure or unit in them, and at nothing else. Where these agree under
every assignment, the two searches make the same bindings for the same reasons. Names are only read
when the line and the records of a run are printed.
-/
namespace ClausalSearch

variable {F G : Formula} {s t : State} {a : Assignment} {cs ds es : List Clause} {l : Literal}
  {reason : Reason} {pool : List Nat} {found : Bool}

/-- No assignment over the variables of the first list tells it apart from the second. -/
structure Agree (cs ds : List Clause) : Prop where
  covers : ∀ {a : Assignment}, a.Covers cs → a.Covers ds
  verdict : ∀ {a : Assignment}, a.Covers cs → verdict? ds a = verdict? cs a
  pureLiteral : ∀ {a : Assignment} (pool : List Nat), a.Covers cs →
    findPure pool ds a = findPure pool cs a
  unitClause : ∀ {a : Assignment}, a.Covers cs → findUnit a ds = findUnit a cs

theorem agree_refl (cs : List Clause) : Agree cs cs :=
  ⟨id, fun _ => rfl, fun _ _ => rfl, fun _ => rfl⟩

theorem agree_trans (first : Agree cs ds) (second : Agree ds es) : Agree cs es := by
  constructor
  · intro a covers
    exact second.covers (first.covers covers)
  · intro a covers
    exact (second.verdict (first.covers covers)).trans (first.verdict covers)
  · intro a pool covers
    exact (second.pureLiteral pool (first.covers covers)).trans (first.pureLiteral pool covers)
  · intro a covers
    exact (second.unitClause (first.covers covers)).trans (first.unitClause covers)

theorem chosen_of_agree (agree : Agree cs ds) (covers : a.Covers cs)
    (chosen : Chosen pool cs a reason l) : Chosen pool ds a reason l := by
  have pureAlike := agree.pureLiteral pool covers
  have unitAlike := agree.unitClause covers
  cases chosen with
  | pureLiteral found => exact .pureLiteral (pureAlike.trans found)
  | unitClause impure found => exact .unitClause (pureAlike.trans impure) (unitAlike.trans found)
  | decision impure unforced first =>
    exact .decision (pureAlike.trans impure) (unitAlike.trans unforced) first

theorem opens_of_agree (agree : Agree F.clauses G.clauses) (canonical : s.Canonical F)
    (opened : Opens F s reason l t) : Opens G s reason l t := by
  have covers := State.canonical_covers canonical
  exact ⟨(agree.verdict covers).trans opened.undecided,
    chosen_of_agree agree covers opened.chosen, opened.bound, opened.pool, opened.stats, opened.log⟩

theorem explores_of_agree (agree : Agree F.clauses G.clauses) (canonical : s.Canonical F)
    (run : Explores F s found t) : Explores G s found t := by
  induction run with
  | settled verdict =>
    exact .settled ((agree.verdict (State.canonical_covers canonical)).trans verdict)
  | found opened below ih =>
    exact .found (opens_of_agree agree canonical opened) (ih (opens_canonical canonical opened))
  | abandoned opened committed below ih =>
    exact .abandoned (opens_of_agree agree canonical opened) committed
      (ih (opens_canonical canonical opened))
  | flipped opened first turned second first_ih second_ih =>
    exact .flipped (opens_of_agree agree canonical opened)
      (first_ih (opens_canonical canonical opened)) turned
      (second_ih (turns_canonical canonical turned))
  | exhausted opened first turned second first_ih second_ih =>
    exact .exhausted (opens_of_agree agree canonical opened)
      (first_ih (opens_canonical canonical opened)) turned
      (second_ih (turns_canonical canonical turned))

structure Run.Alike (run other : Run) : Prop where
  assignment : other.model.map Model.assignment = run.model.map Model.assignment
  stats : other.stats = run.stats
  events : other.events = run.events

theorem solves_alike {run other : Run} (first : Solves F run found t)
    (second : Solves G other found t) : run.Alike other := by
  refine ⟨?_, second.stats.trans first.stats.symm, second.events.trans first.events.symm⟩
  have ends := first.model
  have otherEnds := second.model
  cases found with
  | true =>
    obtain ⟨m, model, -, assignment⟩ := ends
    obtain ⟨n, otherModel, -, otherAssignment⟩ := otherEnds
    simp [model, otherModel, assignment, otherAssignment]
  | false =>
    rw [if_neg Bool.false_ne_true] at ends otherEnds
    simp [ends, otherEnds]

theorem run_alike (size : G.numVariables = F.numVariables)
    (agree : Agree F.clauses G.clauses) :
    ∃ run other, solve F = .ok run ∧ solve G = .ok other ∧ run.Alike other := by
  obtain ⟨run, found, t, solved, solves⟩ := solve_solves F
  obtain ⟨other, otherFound, u, otherSolved, otherSolves⟩ := solve_solves G
  have start : State.initial G = State.initial F := by simp only [State.initial, size]
  have explored := explores_of_agree agree (State.initial_canonical F) solves.explored
  rw [← start] at explored
  obtain ⟨same, last⟩ := explores_unique explored otherSolves.explored
  subst same last
  exact ⟨run, other, solved, otherSolved, solves_alike solves otherSolves⟩

theorem alike_isSatisfiable {run other : Run} (alike : run.Alike other) :
    other.isSatisfiable = run.isSatisfiable := by
  have isSome := congrArg Option.isSome alike.assignment
  simpa [Run.isSatisfiable] using isSome

theorem alike_trail {run other : Run} (alike : run.Alike other) :
    other.model.map Model.trail = run.model.map Model.trail := by
  have composed : Model.trail = Assignment.trail ∘ Model.assignment := rfl
  rw [composed, ← Option.map_map, ← Option.map_map, alike.assignment]

section Printed

variable {run other : Run} {name named : Literal → NamedLiteral}

def Run.lineAs (name : Literal → NamedLiteral) (run : Run) : String :=
  ((run.model.map Model.trail).map fun trail => NamedFormat.clauseText (trail.map name)).getD ""

def Event.textAs (name : Literal → NamedLiteral) (e : Event) : String :=
  s!"{e.step.text} {(name e.literal).text} at depth {e.depth}"

def Run.recordsAs (name : Literal → NamedLiteral) (run : Run) : List Record :=
  let answer := if run.isSatisfiable then "SAT" else "UNSAT"
  run.events.map (fun e => ⟨.trace, .search, e.textAs name⟩) ++
    [⟨.debug, .search, s!"{answer} after {run.stats.text}"⟩]

theorem records_eq (F : Formula) (run : Run) : run.records F = run.recordsAs F.named := rfl

theorem line_eq (solved : solve F = .ok run) : run.line = run.lineAs F.named := by
  unfold Run.line Run.lineAs
  cases answer : run.model with
  | none => rfl
  | some m =>
    obtain ⟨formula, -⟩ := trail_named solved answer
    subst formula
    rfl

theorem lineAs_of_alike (alike : run.Alike other) : other.lineAs name = run.lineAs name := by
  rw [Run.lineAs, Run.lineAs, alike_trail alike]

theorem recordsAs_of_alike (alike : run.Alike other) :
    other.recordsAs name = run.recordsAs name := by
  simp only [Run.recordsAs, alike_isSatisfiable alike, alike.stats, alike.events]

section SameNames

variable (solved : solve F = .ok run)
  (same : ∀ l : Literal, l.var < F.numVariables → name l = named l)
include solved same

/-- A model only binds variables of the formula, so only their names matter. -/
theorem lineAs_congr : run.lineAs name = run.lineAs named := by
  obtain ⟨found, t, solves⟩ := solves_of_solve solved
  unfold Run.lineAs
  cases answer : run.model with
  | none => rfl
  | some m =>
    obtain ⟨-, legal⟩ := model_legal solves answer
    have trail : m.trail.map name = m.trail.map named :=
      List.map_congr_left fun l member => same l (Assignment.trail_lt_of_legal legal l member)
    simp only [Option.map_some, trail]

theorem recordsAs_congr : run.recordsAs name = run.recordsAs named := by
  obtain ⟨found, t, solves⟩ := solves_of_solve solved
  have texts : run.events.map (fun e => (⟨.trace, .search, e.textAs name⟩ : Record)) =
      run.events.map fun e => ⟨.trace, .search, e.textAs named⟩ := by
    apply List.map_congr_left
    intro e member
    rw [Event.textAs, Event.textAs, same e.literal (events_inside solves e member)]
  simp only [Run.recordsAs, texts]

end SameNames

end Printed

end ClausalSearch
