import ClausalSearch.Proofs.Restoration
import Mathlib.Logic.Relation

/-!
The calls of a search. A state leaves the search no choice, so an exploration and the search that
has enough bound are the same. On the way every call is reached with its bindings logged: between
the logs before and after an exploration, each log is the one that some call starts with.
-/
namespace ClausalSearch

variable {F : Formula} {s t u w x s' t' x' : State} {l l' : Literal} {reason reason' : Reason}
  {found found' : Bool}

theorem chosen_unique {pool : List Nat} {clauses : List Clause} {a : Assignment}
    (first : Chosen pool clauses a reason l) (second : Chosen pool clauses a reason' l') :
    reason = reason' ∧ l = l' := by
  cases first with
  | pureLiteral found =>
    cases second with
    | pureLiteral same =>
      rw [found] at same
      cases same
      exact ⟨rfl, rfl⟩
    | unitClause impure | decision impure =>
      rw [found] at impure
      cases impure
  | unitClause impure found =>
    cases second with
    | pureLiteral same =>
      rw [impure] at same
      cases same
    | unitClause _ same =>
      rw [found] at same
      cases same
      exact ⟨rfl, rfl⟩
    | decision _ unforced =>
      rw [found] at unforced
      cases unforced
  | decision impure unforced first =>
    cases second with
    | pureLiteral same =>
      rw [impure] at same
      cases same
    | unitClause _ same =>
      rw [unforced] at same
      cases same
    | decision _ _ same =>
      rw [first] at same
      cases same
      exact ⟨rfl, rfl⟩

theorem state_eq (pool : s.pool = t.pool) (assignment : s.assignment = t.assignment)
    (stats : s.stats = t.stats) (log : s.log = t.log) : s = t := by
  cases s
  cases t
  simp_all

theorem opens_unique (first : Opens F s reason l t) (second : Opens F s reason' l' t') :
    reason = reason' ∧ l = l' ∧ t = t' := by
  obtain ⟨rfl, rfl⟩ := chosen_unique first.chosen second.chosen
  have assignment := first.bound.symm.trans second.bound
  refine ⟨rfl, rfl, state_eq ?_ (Except.ok.inj assignment) ?_ ?_⟩
  · rw [first.pool, second.pool]
  · rw [first.stats, second.stats]
  · rw [first.log, second.log]

theorem turns_unique {w' : State} (first : Turns s l u w) (second : Turns s l u w') : w = w' := by
  have assignment := first.bound.symm.trans second.bound
  refine state_eq ?_ (Except.ok.inj assignment) ?_ ?_
  · rw [first.pool, second.pool]
  · rw [first.stats, second.stats]
  · rw [first.log, second.log]

/-- How an exploration ends above a literal that was taken, from the answer below it. -/
inductive Resumes (F : Formula) (s : State) (reason : Reason) (l : Literal) :
    Bool → State → Bool → State → Prop where
  | found {u : State} : Resumes F s reason l true u true u
  | abandoned {u : State} (committed : reason ≠ .decision) :
      Resumes F s reason l false u false (s.givenBack u)
  | turned {u w x : State} {found : Bool} (decision : reason = .decision) (turned : Turns s l u w)
      (second : Explores F w found x) :
      Resumes F s reason l false u found (if found then x else s.givenBack x)

theorem explores_resumes (opened : Opens F s reason l t) (run : Explores F s found x) :
    ∃ answer u, Explores F t answer u ∧ Resumes F s reason l answer u found x := by
  cases run with
  | settled verdict =>
    rw [opened.undecided] at verdict
    cases verdict
  | found same below =>
    obtain ⟨rfl, rfl, rfl⟩ := opens_unique opened same
    exact ⟨true, _, below, .found⟩
  | abandoned same committed below =>
    obtain ⟨rfl, rfl, rfl⟩ := opens_unique opened same
    exact ⟨false, _, below, .abandoned committed⟩
  | flipped same first turned second =>
    obtain ⟨rfl, rfl, rfl⟩ := opens_unique opened same
    exact ⟨false, _, first, .turned rfl turned second⟩
  | exhausted same first turned second =>
    obtain ⟨rfl, rfl, rfl⟩ := opens_unique opened same
    exact ⟨false, _, first, .turned rfl turned second⟩

theorem explores_unique (first : Explores F s found t) (second : Explores F s found' t') :
    found = found' ∧ t = t' := by
  induction first generalizing found' t' with
  | settled verdict =>
    cases second with
    | settled same =>
      rw [verdict] at same
      cases same
      exact ⟨rfl, rfl⟩
    | found opened | abandoned opened | flipped opened | exhausted opened =>
      have undecided := opened.undecided
      rw [verdict] at undecided
      cases undecided
  | found opened below ih =>
    obtain ⟨answer, u, same, resumes⟩ := explores_resumes opened second
    obtain ⟨rfl, rfl⟩ := ih same
    cases resumes
    exact ⟨rfl, rfl⟩
  | abandoned opened committed below ih =>
    obtain ⟨answer, u, same, resumes⟩ := explores_resumes opened second
    obtain ⟨rfl, rfl⟩ := ih same
    cases resumes with
    | abandoned => exact ⟨rfl, rfl⟩
    | turned decision => exact absurd decision committed
  | flipped opened below turned other ih_first ih_second =>
    obtain ⟨answer, u, same, resumes⟩ := explores_resumes opened second
    obtain ⟨rfl, rfl⟩ := ih_first same
    cases resumes with
    | abandoned committed => exact absurd rfl committed
    | turned _ again rest =>
      obtain rfl := turns_unique turned again
      obtain ⟨rfl, rfl⟩ := ih_second rest
      exact ⟨rfl, rfl⟩
  | exhausted opened below turned other ih_first ih_second =>
    obtain ⟨answer, u, same, resumes⟩ := explores_resumes opened second
    obtain ⟨rfl, rfl⟩ := ih_first same
    cases resumes with
    | abandoned committed => exact absurd rfl committed
    | turned _ again rest =>
      obtain rfl := turns_unique turned again
      obtain ⟨rfl, rfl⟩ := ih_second rest
      exact ⟨rfl, rfl⟩

theorem search_of_explores (canonical : s.Canonical F) {left : Nat}
    (enough : s.pool.length ≤ left) (run : Explores F s found t) :
    search F left s = .ok (found, t) := by
  obtain ⟨found', t', search, same⟩ := search_total canonical enough
  obtain ⟨rfl, rfl⟩ := explores_unique run same
  exact search

theorem takes_of_opens (canonical : s.Canonical F) (opened : Opens F s reason l t) :
    ∃ position, Takes F s reason l position t := by
  obtain ⟨reason', l', position, t', takes⟩ := takes_of_undecided canonical opened.undecided
  obtain ⟨rfl, rfl, rfl⟩ := opens_unique opened takes.opened
  exact ⟨position, takes⟩

theorem recurses_of_opens (canonical : s.Canonical F) (opened : Opens F s reason l t) :
    Recurses F s t := by
  obtain ⟨position, takes⟩ := takes_of_opens canonical opened
  exact .taken opened.undecided takes.choice takes.taken

theorem flip_of_turns (opened : Opens F s .decision l t) (first : Explores F t false u)
    (turned : Turns s l u w) : u.flip l = .ok w := by
  obtain ⟨w', flip, same⟩ := flip_turns opened first
  obtain rfl := turns_unique turned same
  exact flip

theorem recurses_of_turns (canonical : s.Canonical F) (opened : Opens F s .decision l t)
    (first : Explores F t false u) (turned : Turns s l u w) : Recurses F s w := by
  obtain ⟨position, takes⟩ := takes_of_opens canonical opened
  have failed := search_of_explores (opens_canonical canonical opened) (Nat.le_refl _) first
  have flip := flip_of_turns opened first turned
  exact .flipped opened.undecided takes.choice takes.taken failed flip

/-- The states on which the search calls itself, at any depth, when it is called on `s`. -/
abbrev Reaches (F : Formula) : State → State → Prop := Relation.ReflTransGen (Recurses F)

theorem reaches_canonical (canonical : s.Canonical F) (reached : Reaches F s t) :
    t.Canonical F := by
  induction reached with
  | refl => exact canonical
  | tail before call ih => exact recurses_canonical ih call

theorem explores_extends_log (run : Explores F s found t) : s.log <:+ t.log := by
  induction run with
  | settled verdict => exact List.suffix_rfl
  | found opened below ih | abandoned opened committed below ih =>
    rw [opened.log] at ih
    exact (List.suffix_cons ..).trans ih
  | flipped opened first turned second first_ih second_ih
  | exhausted opened first turned second first_ih second_ih =>
    rw [opened.log] at first_ih
    rw [turned.log] at second_ih
    exact (List.suffix_cons ..).trans (first_ih.trans ((List.suffix_cons ..).trans second_ih))

theorem log_eq_or_longer {old log new : List Event} {e : Event} (after : old <:+ log)
    (before : log <:+ new) (grown : e :: old <:+ new) : log = old ∨ e :: old <:+ log := by
  rcases List.suffix_or_suffix_of_suffix before grown with shorter | longer
  · rcases List.suffix_cons_iff.1 shorter with rfl | within
    · exact .inr List.suffix_rfl
    · exact .inl (within.eq_of_length_le after.length_le)
  · exact .inr longer

/-- Each binding starts a call, so the logs on the way of an exploration are those of calls. -/
theorem explores_reaches (canonical : s.Canonical F) (run : Explores F s found t)
    {log : List Event} (after : s.log <:+ log) (before : log <:+ t.log) :
    ∃ r, Reaches F s r ∧ r.log = log := by
  induction run generalizing log with
  | settled verdict => exact ⟨_, .refl, (before.eq_of_length_le after.length_le).symm⟩
  | found opened below ih | abandoned opened committed below ih =>
    have grown := explores_extends_log below
    rw [opened.log] at grown
    rcases log_eq_or_longer after before grown with rfl | later
    · exact ⟨_, .refl, rfl⟩
    · rw [← opened.log] at later
      obtain ⟨r, reached, same⟩ := ih (opens_canonical canonical opened) later before
      exact ⟨r, .head (recurses_of_opens canonical opened) reached, same⟩
  | @flipped s t u w x l opened first turned second first_ih second_ih
  | @exhausted s t u w x l opened first turned second first_ih second_ih =>
    have grown := explores_extends_log first
    rw [opened.log] at grown
    have regrown := explores_extends_log second
    rw [turned.log] at regrown
    -- the log stops within the first branch, or it has the turn and all that was logged before
    rcases List.suffix_or_suffix_of_suffix before ((List.suffix_cons ..).trans regrown) with
      within | beyond
    · rcases log_eq_or_longer after within grown with rfl | later
      · exact ⟨_, .refl, rfl⟩
      · rw [← opened.log] at later
        obtain ⟨r, reached, same⟩ := first_ih (opens_canonical canonical opened) later within
        exact ⟨r, .head (recurses_of_opens canonical opened) reached, same⟩
    · rcases log_eq_or_longer beyond before regrown with rfl | later
      · have start := explores_extends_log first
        obtain ⟨r, reached, same⟩ := first_ih (opens_canonical canonical opened) start
          List.suffix_rfl
        exact ⟨r, .head (recurses_of_opens canonical opened) reached, same⟩
      · rw [← turned.log] at later
        obtain ⟨r, reached, same⟩ := second_ih (turns_canonical canonical turned) later before
        exact ⟨r, .head (recurses_of_turns canonical opened first turned) reached, same⟩

end ClausalSearch
