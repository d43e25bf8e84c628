import ClausalSearch.Proofs.Assignment
import Mathlib.Data.List.Induction

/-!
Sessions: bindings and undoings of one assignment in any order, those included that are rejected.
The table and the stack stay in step, and an undoing takes back the binding that was made last of
those that are left. Whatever is bound and taken back in between leaves nothing behind. Made in
place, one write after the other, a change that is rejected has written nothing.
-/
namespace ClausalSearch

inductive Change where
  | bind (l : Literal)
  | unbind
  deriving DecidableEq, Repr

namespace Assignment

variable {a b c : Assignment} {k l : Literal} {n u place : Nat} {change : Change}
  {changes between : List Change} {upper rest : List Literal}

def perform (a : Assignment) : Change → Except Fault Assignment
  | .bind l => a.bind l
  | .unbind =>
    match a.unbind with
    | some (_, b) => .ok b
    | none => .error .nothingBound

def attempt (a : Assignment) (change : Change) : Assignment :=
  (a.perform change).toOption.getD a

def session (n : Nat) (changes : List Change) : Assignment := changes.foldl attempt (empty n)

def performAll (a : Assignment) (changes : List Change) : Except Fault Assignment :=
  changes.foldlM perform a

/-- Table and stack say the same about each of `n` variables. -/
structure InStep (n : Nat) (a : Assignment) : Prop where
  values : ∀ v < n, ∀ b, a.value v = .ok (some b) ↔ ⟨v, b⟩ ∈ a.trail
  distinct : (a.trail.map Literal.var).Nodup
  length : a.depth = a.trail.length
  bounded : a.depth ≤ n
  empty : a.isEmpty = true ↔ ∀ v < n, a.value v = .ok none
  total : a.isTotal = true ↔ ∀ v < n, ∃ b, a.value v = .ok (some b)

section Steps

theorem value_eq_ok_iff {sign : Option Bool} : a.value u = .ok sign ↔ a.values[u]? = some sign := by
  unfold value
  cases a.values[u]? <;> simp

theorem value_of_open_iff : a.value u = .ok none ↔ a.Open u := value_eq_ok_iff

theorem value_of_makes_iff : a.value l.var = .ok (some l.positive) ↔ a.Makes l := value_eq_ok_iff

theorem value_bound_iff (inside : u < a.size) :
    (∃ sign, a.value u = .ok (some sign)) ↔ ¬ a.Open u := by
  have entry : a.values[u]? = some a.values[u] := Array.getElem?_eq_getElem inside
  simp only [value_eq_ok_iff, Open, entry]
  cases a.values[u] <;> simp

theorem mem_trail : l ∈ a.trail ↔ l ∈ a.bound := List.mem_reverse

theorem unbind_of_legal (legal : a.Legal n) (undone : a.unbind = some (l, b)) :
    b.Legal n ∧ b.bind l = .ok a := by
  cases legal with
  | empty => cases undone
  | bind legal bound =>
    rw [unbind_of_bind bound] at undone
    cases undone
    exact ⟨legal, bound⟩

theorem unbind_eq_none_iff : a.unbind = none ↔ a.bound = [] := by
  unfold unbind
  cases a.bound <;> simp

theorem unbind_of_bound (stack : a.bound = l :: rest) : ∃ b, a.unbind = some (l, b) := by
  unfold unbind
  rw [stack]
  exact ⟨_, rfl⟩

theorem perform_unbind_eq_ok_iff : a.perform .unbind = .ok b ↔ ∃ l, a.unbind = some (l, b) := by
  simp only [perform]
  cases a.unbind with
  | none => simp
  | some undone => simp [Prod.ext_iff]

theorem attempt_of_ok (performed : a.perform change = .ok b) : a.attempt change = b := by
  rw [attempt, performed]
  rfl

theorem attempt_of_error {fault : Fault} (failed : a.perform change = .error fault) :
    a.attempt change = a := by
  rw [attempt, failed]
  rfl

theorem attempt_cases (legal : a.Legal n) (change : Change) :
    (∃ l, change = .bind l ∧ a.bind l = .ok (a.attempt change)) ∨
      (∃ l, (a.attempt change).Legal n ∧ (a.attempt change).bind l = .ok a) ∨
      a.attempt change = a := by
  cases performed : a.perform change with
  | error fault => exact .inr (.inr (attempt_of_error performed))
  | ok b =>
    rw [attempt_of_ok performed]
    cases change with
    | bind l => exact .inl ⟨l, rfl, performed⟩
    | unbind =>
      obtain ⟨l, undone⟩ := perform_unbind_eq_ok_iff.1 performed
      exact .inr (.inl ⟨l, unbind_of_legal legal undone⟩)

theorem attempt_legal (legal : a.Legal n) (change : Change) : (a.attempt change).Legal n := by
  rcases attempt_cases legal change with ⟨l, -, bound⟩ | ⟨l, before, -⟩ | same
  · exact .bind legal bound
  · exact before
  · rwa [same]

theorem session_concat (n : Nat) (changes : List Change) (change : Change) :
    session n (changes ++ [change]) = (session n changes).attempt change := by
  rw [session, List.foldl_append]
  rfl

theorem session_legal (n : Nat) (changes : List Change) : (session n changes).Legal n := by
  induction changes using List.reverseRecOn with
  | nil => exact .empty
  | append_singleton changes change ih =>
    rw [session_concat]
    exact attempt_legal ih change

end Steps

section Consistency

theorem bound_eq_nil_iff_of_legal (legal : a.Legal n) : a.bound = [] ↔ ∀ v < n, a.Open v := by
  constructor
  · intro none v inside
    rw [open_iff_of_legal legal, trail, none]
    exact ⟨inside, by simp⟩
  · intro every
    rw [List.eq_nil_iff_forall_not_mem]
    intro l bound
    have listed := mem_trail.2 bound
    have unset := every l.var (trail_lt_of_legal legal l listed)
    exact not_makes_of_open unset ((makes_iff_of_legal legal).2 listed)

theorem inStep_of_legal (legal : a.Legal n) : a.InStep n where
  values := by
    intro v _ sign
    rw [← makes_iff_of_legal legal]
    exact value_of_makes_iff (l := ⟨v, sign⟩)
  distinct := trail_nodup_of_legal legal
  length := (length_trail a).symm
  bounded := depth_le_of_legal legal
  empty := by
    rw [isEmpty, List.isEmpty_iff, bound_eq_nil_iff_of_legal legal]
    simp only [value_of_open_iff]
  total := by
    rw [isTotal_iff_of_legal legal]
    apply forall₂_congr
    intro v inside
    rw [← size_of_legal legal] at inside
    rw [value_bound_iff inside]

theorem bind_rejected_iff (legal : a.Legal n) : (∃ fault, a.bind l = .error fault) ↔
    n ≤ l.var ∨ ∃ sign, a.value l.var = .ok (some sign) := by
  by_cases inside : l.var < n
  · rw [← size_of_legal legal] at inside
    rw [value_bound_iff inside]
    constructor
    · rintro ⟨fault, rejected⟩
      right
      intro unset
      obtain ⟨b, bound⟩ := bind_of_open unset
      rw [rejected] at bound
      cases bound
    · intro settled
      cases bound : a.bind l with
      | error fault => exact ⟨fault, rfl⟩
      | ok b =>
        have unset := open_of_bind bound
        rw [size_of_legal legal] at inside
        rcases settled with outside | known
        · omega
        · exact absurd unset known
  · refine iff_of_true ?_ (.inl (Nat.le_of_not_lt inside))
    cases bound : a.bind l with
    | error fault => exact ⟨fault, rfl⟩
    | ok b =>
      have within := open_lt_size (open_of_bind bound)
      rw [size_of_legal legal] at within
      exact absurd within inside

end Consistency

section Undoing

/-- Changes in which every binding is taken back, the last one first. -/
inductive Balanced : List Change → Prop where
  | nil : Balanced []
  | pair {l : Literal} {inner rest : List Change} (inside : Balanced inner)
      (after : Balanced rest) : Balanced (.bind l :: (inner ++ .unbind :: rest))

theorem balanced_restores (balanced : Balanced changes) (run : a.performAll changes = .ok b) :
    b = a := by
  induction balanced generalizing a b with
  | nil =>
    cases run
    rfl
  | pair inside after inside_ih after_ih =>
    rw [performAll, List.foldlM_cons] at run
    obtain ⟨c, bound, run⟩ := bind_eq_ok.1 run
    rw [List.foldlM_append] at run
    obtain ⟨d, nested, run⟩ := bind_eq_ok.1 run
    rw [List.foldlM_cons] at run
    obtain ⟨e, undone, run⟩ := bind_eq_ok.1 run
    obtain rfl := inside_ih nested
    obtain ⟨k, undone⟩ := perform_unbind_eq_ok_iff.1 undone
    rw [unbind_of_bind bound] at undone
    cases undone
    exact after_ih run

theorem unbind_of_balanced (bound : a.bind l = .ok b) (balanced : Balanced between)
    (run : b.performAll between = .ok c) : c.unbind = some (l, a) := by
  obtain rfl := balanced_restores balanced run
  exact unbind_of_bind bound

/-- The change at the place bound the literal, and it is bound after all changes. -/
structure BoundAt (n : Nat) (changes : List Change) (place : Nat) (l : Literal) : Prop where
  change : changes[place]? = some (.bind l)
  accepted : ∃ b, (session n (changes.take place)).bind l = .ok b
  still : (session n changes).value l.var = .ok (some l.positive)

/-- Of the literals that are still bound, the one that was bound last. -/
def Newest (n : Nat) (changes : List Change) (l : Literal) : Prop :=
  ∃ place, BoundAt n changes place l ∧
    ∀ other k, BoundAt n changes other k → other ≤ place

/-- The change at the place put the literal upon the rest of the stack, and there it has stayed. -/
structure StackedAt (n : Nat) (changes : List Change) (place : Nat) (l : Literal)
    (rest : List Literal) : Prop where
  change : changes[place]? = some (.bind l)
  accepted : ∃ b, (session n (changes.take place)).bind l = .ok b
  kept : ∀ later, place < later → later ≤ changes.length →
    (l :: rest) <:+ (session n (changes.take later)).bound

theorem place_lt_of_stackedAt (stacked : StackedAt n changes place l rest) :
    place < changes.length :=
  (List.getElem?_eq_some_iff.1 stacked.change).1

theorem stackedAt_concat (stacked : StackedAt n changes place l rest)
    (still : (l :: rest) <:+ (session n (changes ++ [change])).bound) :
    StackedAt n (changes ++ [change]) place l rest := by
  have inside := place_lt_of_stackedAt stacked
  refine ⟨?_, ?_, ?_⟩
  · rw [List.getElem?_append_left inside, stacked.change]
  · rw [List.take_append_of_le_length (Nat.le_of_lt inside)]
    exact stacked.accepted
  · intro later after within
    rw [List.length_append, List.length_singleton] at within
    by_cases before : later ≤ changes.length
    · rw [List.take_append_of_le_length before]
      exact stacked.kept later after before
    · have whole : (changes ++ [change]).length ≤ later := by
        rw [List.length_append, List.length_singleton]
        omega
      rw [List.take_of_length_le whole]
      exact still

theorem stackedAt_last (bound : (session n changes).bind l = .ok b)
    (stack : b.bound = l :: rest) :
    StackedAt n (changes ++ [.bind l]) changes.length l rest := by
  refine ⟨by simp, ?_, ?_⟩
  · rw [List.take_left' rfl]
    exact ⟨b, bound⟩
  · intro later after within
    have last : session n (changes ++ [.bind l]) = b :=
      (session_concat n changes (.bind l)).trans (attempt_of_ok bound)
    have whole : (changes ++ [Change.bind l]).length ≤ later := by
      rw [List.length_append, List.length_singleton]
      omega
    have top : (session n ((changes ++ [Change.bind l]).take later)).bound = l :: rest := by
      rw [List.take_of_length_le whole, last, stack]
    exact ⟨[], top.symm⟩

/-- Every entry of the stack has been there since a change put it there. The stack under an entry
is the same as then, so the induction speaks of all entries and not of the top one alone. -/
theorem exists_stackedAt (stack : (session n changes).bound = upper ++ l :: rest) :
    ∃ place, StackedAt n changes place l rest := by
  induction changes using List.reverseRecOn generalizing upper with
  | nil => cases upper <;> cases stack
  | append_singleton changes change ih =>
    have still : (l :: rest) <:+ (session n (changes ++ [change])).bound := ⟨upper, stack.symm⟩
    rw [session_concat] at stack
    rcases attempt_cases (session_legal n changes) change with
      ⟨k, rfl, bound⟩ | ⟨k, -, undone⟩ | same
    · have grown := bound_of_bind bound
      rw [stack] at grown
      cases upper with
      | nil =>
        obtain ⟨rfl, -⟩ := List.cons.inj grown
        exact ⟨changes.length, stackedAt_last bound stack⟩
      | cons top upper =>
        obtain ⟨place, stacked⟩ := ih (List.cons.inj grown).2.symm
        exact ⟨place, stackedAt_concat stacked still⟩
    · have shrunk := bound_of_bind undone
      rw [stack, ← List.cons_append] at shrunk
      obtain ⟨place, stacked⟩ := ih shrunk
      exact ⟨place, stackedAt_concat stacked still⟩
    · rw [same] at stack
      obtain ⟨place, stacked⟩ := ih stack
      exact ⟨place, stackedAt_concat stacked still⟩

theorem newest_of_bound (stack : (session n changes).bound = l :: rest) :
    Newest n changes l := by
  have whole : (session n changes).bound = [] ++ l :: rest := stack
  obtain ⟨place, stacked⟩ := exists_stackedAt whole
  have legal := session_legal n changes
  have made : (session n changes).Makes l := by
    rw [makes_iff_of_legal legal, mem_trail, stack]
    exact List.mem_cons_self
  refine ⟨place, ⟨stacked.change, stacked.accepted, value_of_makes_iff.2 made⟩, ?_⟩
  intro other k boundAt
  by_contra later
  -- a literal that is bound later is fresh then, but all that is bound now was there already
  obtain ⟨b, accepted⟩ := boundAt.accepted
  have inside := (List.getElem?_eq_some_iff.1 boundAt.change).1
  have kept := stacked.kept other (Nat.lt_of_not_le later) (Nat.le_of_lt inside)
  have fresh := ((open_iff_of_legal (session_legal n _)).1 (open_of_bind accepted)).2
  have member : k ∈ (session n changes).bound := by
    rw [← mem_trail, ← makes_iff_of_legal legal]
    exact value_of_makes_iff.1 boundAt.still
  rw [stack] at member
  exact fresh (List.mem_map_of_mem (mem_trail.2 (kept.subset member)))

theorem newest_unique (first : Newest n changes k) (second : Newest n changes l) : k = l := by
  obtain ⟨place, first, last⟩ := first
  obtain ⟨other, second, other_last⟩ := second
  have same : place = other := Nat.le_antisymm (other_last place k first) (last other l second)
  have change := first.change
  rw [same, second.change] at change
  cases change
  rfl

theorem unbind_eq_some_iff_newest :
    (∃ b, (session n changes).unbind = some (l, b)) ↔ Newest n changes l := by
  constructor
  · rintro ⟨b, undone⟩
    obtain ⟨-, bound⟩ := unbind_of_legal (session_legal n changes) undone
    exact newest_of_bound (bound_of_bind bound)
  · intro newest
    obtain ⟨place, boundAt, -⟩ := id newest
    have made := value_of_makes_iff.1 boundAt.still
    rw [makes_iff_of_legal (session_legal n changes), mem_trail] at made
    obtain ⟨k, rest, stack⟩ := List.exists_cons_of_ne_nil (List.ne_nil_of_mem made)
    obtain rfl := newest_unique (newest_of_bound stack) newest
    exact unbind_of_bound stack

end Undoing

section InPlace

/-- A computation on one assignment; what it has written when it fails stays written. -/
abbrev InPlace := EStateM Fault Assignment

def writeValue (u : Nat) (value : Option Bool) : InPlace Unit := do
  let a ← get
  if u < a.size then set { a with values := a.values.setIfInBounds u value }
  else throw (.outOfRange a.size u)

def bindInPlace (l : Literal) : InPlace Unit := do
  match (← get).isBound l.var with
  | .error fault => throw fault
  | .ok true => throw .alreadyBound
  | .ok false =>
    writeValue l.var (some l.positive)
    modify fun a => { a with bound := l :: a.bound }

/-- Writes the stack and then the table, so a variable outside the table would lose its binding. -/
def unbindInPlace : InPlace (Option Literal) := do
  match (← get).bound with
  | [] => return none
  | l :: rest =>
    modify fun a => { a with bound := rest }
    writeValue l.var none
    return some l

theorem writeValue_run {values : Array (Option Bool)} {bound : List Literal}
    (inside : u < values.size) (value : Option Bool) :
    (writeValue u value).run ⟨values, bound⟩ = .ok () ⟨values.setIfInBounds u value, bound⟩ := by
  simp [writeValue, size, inside]

theorem bindInPlace_of_ok (bound : a.bind l = .ok b) : (bindInPlace l).run a = .ok () b := by
  obtain ⟨unset, rfl⟩ := bind_eq_ok_iff.1 bound
  have inside := open_lt_size unset
  have free : a.isBound l.var = .ok false := by simp [isBound_eq inside, Open, unset]
  obtain ⟨values, stack⟩ := a
  simp [bindInPlace, free, writeValue_run inside]

theorem bindInPlace_of_error {fault : Fault} (rejected : a.bind l = .error fault) :
    (bindInPlace l).run a = .error fault a := by
  unfold Assignment.bind at rejected
  cases found : a.isBound l.var with
  | error outside =>
    rw [found, error_bind] at rejected
    cases rejected
    simp [bindInPlace, found]
  | ok taken =>
    rw [found, ok_bind] at rejected
    cases taken with
    | false => simp at rejected
    | true =>
      cases rejected
      simp [bindInPlace, found]

theorem unbindInPlace_of_legal (legal : a.Legal n) :
    unbindInPlace.run a = .ok (a.unbind.map Prod.fst) (a.attempt .unbind) := by
  have inside : ∀ l ∈ a.bound, l.var < a.size := by
    intro l bound
    rw [size_of_legal legal]
    exact trail_lt_of_legal legal l (mem_trail.2 bound)
  obtain ⟨values, bound⟩ := a
  cases bound with
  | nil => rfl
  | cons l rest =>
    have within : l.var < values.size := inside l List.mem_cons_self
    simp [unbindInPlace, writeValue_run within, unbind, attempt, perform, Except.toOption,
      -bind_pure_comp]

end InPlace

theorem sessions_stay_in_step (n : Nat) (changes : List Change) :
    (session n changes).InStep n ∧
    (∀ l, (∃ fault, (session n changes).bind l = .error fault) ↔
      n ≤ l.var ∨ ∃ sign, (session n changes).value l.var = .ok (some sign)) ∧
    (∀ l fault, (session n changes).bind l = .error fault →
      session n (changes ++ [.bind l]) = session n changes ∧
      (bindInPlace l).run (session n changes) = .error fault (session n changes)) ∧
    (∀ l b, (session n changes).bind l = .ok b →
      session n (changes ++ [.bind l]) = b ∧
      (bindInPlace l).run (session n changes) = .ok () b) ∧
    unbindInPlace.run (session n changes) =
      .ok ((session n changes).unbind.map Prod.fst) (session n (changes ++ [.unbind])) ∧
    ((session n changes).unbind = none ↔ ∀ v < n, (session n changes).value v = .ok none) ∧
    (∀ l, (∃ b, (session n changes).unbind = some (l, b)) ↔ Newest n changes l) ∧
    ∀ l b between c, (session n changes).bind l = .ok b → Balanced between →
      b.performAll between = .ok c → c.unbind = some (l, session n changes) := by
  have legal := session_legal n changes
  refine ⟨inStep_of_legal legal, fun l => bind_rejected_iff legal, ?_, ?_, ?_, ?_,
    fun l => unbind_eq_some_iff_newest, fun l b between c => unbind_of_balanced⟩
  · intro l fault rejected
    have same := (session_concat n changes (.bind l)).trans (attempt_of_error rejected)
    exact ⟨same, bindInPlace_of_error rejected⟩
  · intro l b bound
    have next := (session_concat n changes (.bind l)).trans (attempt_of_ok bound)
    exact ⟨next, bindInPlace_of_ok bound⟩
  · rw [session_concat]
    exact unbindInPlace_of_legal legal
  · rw [unbind_eq_none_iff, bound_eq_nil_iff_of_legal legal]
    simp only [value_of_open_iff]

/-- The second and the third change are rejected; the fourth is taken back. -/
def stumbling : List Change :=
  [.bind ⟨0, true⟩, .bind ⟨0, false⟩, .bind ⟨7, true⟩, .bind ⟨1, false⟩, .unbind, .bind ⟨2, true⟩]

def detour : List Change := [.bind ⟨3, false⟩, .unbind]

theorem stumbling_stays_in_step :
    (session 4 stumbling).trail = [⟨0, true⟩, ⟨2, true⟩] ∧ (session 4 stumbling).InStep 4 ∧
    (∃ fault, (session 4 stumbling).bind ⟨2, false⟩ = .error fault ∧
      (bindInPlace ⟨2, false⟩).run (session 4 stumbling) = .error fault (session 4 stumbling)) ∧
    Newest 4 stumbling ⟨2, true⟩ ∧ Balanced detour ∧
    ∃ b c, (session 4 stumbling).bind ⟨1, true⟩ = .ok b ∧ b.performAll detour = .ok c ∧
      c.unbind = some (⟨1, true⟩, session 4 stumbling) := by
  obtain ⟨inStep, rejects, inPlace, -, -, -, newest, restores⟩ := sessions_stay_in_step 4 stumbling
  obtain ⟨fault, rejected⟩ := (rejects ⟨2, false⟩).2 (.inr ⟨true, by decide⟩)
  have balanced : Balanced detour := .pair .nil .nil
  refine ⟨by decide, inStep, ⟨fault, rejected, (inPlace _ fault rejected).2⟩,
    (newest _).1 ⟨_, rfl⟩, balanced, ?_⟩
  have bound : (session 4 stumbling).bind ⟨1, true⟩ = .ok ⟨#[some true, some true, some true, none],
      [⟨1, true⟩, ⟨2, true⟩, ⟨0, true⟩]⟩ := by rfl
  exact ⟨_, _, bound, rfl, restores _ _ detour _ bound balanced rfl⟩

end Assignment

end ClausalSearch
