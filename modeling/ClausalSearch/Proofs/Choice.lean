import ClausalSearch.Proofs.Evaluation
import Mathlib.Data.List.Nodup

/-!
The literals that a search commits to. A unit clause forces its literal in every valuation above
the assignment that satisfies the clauses; a pure literal may be added to any of them. So neither
choice loses satisfiability.
-/
namespace ClausalSearch

variable {a b : Assignment} {c : Clause} {clauses : List Clause} {l : Literal} {v : Valuation}
  {pool : List Nat}

theorem polarity_eq_some_iff {u : Nat} {sign : Bool} :
    c.polarity? u = some sign ↔ ⟨u, sign⟩ ∈ c.literals := by
  rw [Clause.polarity?, Option.map_eq_some_iff]
  constructor
  · rintro ⟨k, found, rfl⟩
    have same : k.var = u := by simpa using List.find?_some found
    subst same
    exact List.mem_of_find?_eq_some found
  · intro member
    have occurs : (c.literals.find? (·.var == u)).isSome := by
      rw [List.find?_isSome]
      exact ⟨_, member, by simp⟩
    obtain ⟨k, found⟩ := Option.isSome_iff_exists.1 occurs
    have same : k.var = u := by simpa using List.find?_some found
    have unique : k = ⟨u, sign⟩ :=
      List.inj_on_of_nodup_map c.distinct (List.mem_of_find?_eq_some found) member same
    exact ⟨k, found, by rw [unique]⟩

def Clause.forced? (c : Clause) (a : Assignment) : Option Literal :=
  if c.SatisfiedBy a then none
  else match c.unassigned a with
    | [l] => some l
    | _ => none

theorem forced_eq_some_iff :
    c.forced? a = some l ↔ ¬ c.SatisfiedBy a ∧ c.unassigned a = [l] := by
  unfold Clause.forced?
  by_cases settled : c.SatisfiedBy a
  · simp [settled]
  · rcases c.unassigned a with _ | ⟨k, _ | _⟩ <;> simp [settled]

theorem forced_eq_some_iff_status (inside : ∀ l ∈ c.literals, l.var < a.size) :
    c.forced? a = some l ↔ c.status a = .ok (.unit l) :=
  forced_eq_some_iff.trans (status_eq_unit_iff inside).symm

theorem forced_lone {k : Literal} (lone : c.literals = [k]) :
    c.forced? a = if a.Open k.var then some k else none := by
  have unassigned : c.unassigned a = if a.Open k.var then [k] else [] := by
    rw [Clause.unassigned, lone]
    by_cases unset : a.Open k.var <;> simp [unset]
  have satisfied : c.SatisfiedBy a ↔ a.Makes k := by simp [Clause.SatisfiedBy, lone]
  rw [Clause.forced?, unassigned]
  by_cases unset : a.Open k.var
  · simp [satisfied, unset, Assignment.not_makes_of_open unset]
  · by_cases made : a.Makes k <;> simp [satisfied, unset, made]

/-- The special case of a clause with one literal agrees with the general one. -/
theorem findUnit_eq (covers : a.Covers clauses) :
    findUnit a clauses = .ok (clauses.findSome? (·.forced? a)) := by
  induction clauses with
  | nil => rfl
  | cons c rest ih =>
    obtain ⟨inside, covers⟩ := covers_cons.1 covers
    have later := ih covers
    rw [findUnit, List.findSome?_cons]
    split
    · rename_i k lone
      have known : k.var < a.size := inside k (by simp [lone])
      rw [Assignment.isBound_eq known, ok_bind, forced_lone lone]
      by_cases unset : a.Open k.var
      · simp [unset, pure, Except.pure]
      · simp [unset, later]
    · rw [status_eq inside, ok_bind, Clause.forced?]
      by_cases settled : c.SatisfiedBy a
      · simp [settled, later]
      · rcases c.unassigned a with _ | ⟨k, _ | _⟩ <;> simp [settled, later, pure, Except.pure]

theorem findUnit_unit (covers : a.Covers clauses) (run : findUnit a clauses = .ok (some l)) :
    ∃ c ∈ clauses, ¬ c.SatisfiedBy a ∧ c.unassigned a = [l] := by
  rw [findUnit_eq covers, Except.ok.injEq] at run
  obtain ⟨c, member, forced⟩ := List.exists_of_findSome?_eq_some run
  exact ⟨c, member, forced_eq_some_iff.1 forced⟩

theorem commonSign_eq_some_iff {signs : List Bool} {sign : Bool} :
    commonSign signs = some sign ↔ signs ≠ [] ∧ ∀ s ∈ signs, s = sign := by
  cases signs with
  | nil => simp [commonSign]
  | cons first rest =>
    rw [commonSign]
    split
    · rename_i same
      simp only [List.all_eq_true, beq_iff_eq] at same
      constructor
      · rintro ⟨⟩
        simpa using same
      · rintro ⟨-, every⟩
        rw [every first (List.mem_cons_self ..)]
    · rename_i differs
      simp only [List.all_eq_true, beq_iff_eq] at differs
      apply iff_of_false (by simp)
      rintro ⟨-, every⟩
      apply differs
      intro s member
      rw [every s (List.mem_cons_of_mem first member), every first (List.mem_cons_self ..)]

/-- The signs with which a variable occurs in the unsatisfied clauses. -/
def openSigns (clauses : List Clause) (a : Assignment) (u : Nat) : List Bool :=
  (clauses.filter fun c => ¬ c.SatisfiedBy a).filterMap (·.polarity? u)

theorem mem_openSigns {u : Nat} {sign : Bool} : sign ∈ openSigns clauses a u ↔
    ∃ c ∈ clauses, ¬ c.SatisfiedBy a ∧ ⟨u, sign⟩ ∈ c.literals := by
  simp [openSigns, polarity_eq_some_iff, and_assoc]

def PureIn (clauses : List Clause) (a : Assignment) (l : Literal) : Prop :=
  (∃ c ∈ clauses, ¬ c.SatisfiedBy a ∧ l ∈ c.literals) ∧
    ∀ c ∈ clauses, ¬ c.SatisfiedBy a → l.negate ∉ c.literals

theorem commonSign_openSigns_iff :
    commonSign (openSigns clauses a l.var) = some l.positive ↔ PureIn clauses a l := by
  rw [commonSign_eq_some_iff, PureIn]
  constructor
  · rintro ⟨occurs, every⟩
    obtain ⟨sign, listed⟩ := List.exists_mem_of_ne_nil _ occurs
    have same := every sign listed
    subst same
    constructor
    · exact mem_openSigns.1 listed
    · intro c member unsatisfied opposite
      have clash := every _ (mem_openSigns.2 ⟨c, member, unsatisfied, opposite⟩)
      simp at clash
  · rintro ⟨occurs, single⟩
    have listed : l.positive ∈ openSigns clauses a l.var := mem_openSigns.2 occurs
    refine ⟨List.ne_nil_of_mem listed, fun sign other => ?_⟩
    obtain ⟨c, member, unsatisfied, inside⟩ := mem_openSigns.1 other
    have same : (⟨l.var, sign⟩ : Literal).var = l.var := rfl
    rcases Literal.eq_or_eq_negate same with same | opposite
    · exact congrArg Literal.positive same
    · exact absurd (opposite ▸ inside) (single c member unsatisfied)

def pureLiteral? (clauses : List Clause) (a : Assignment) (u : Nat) : Option Literal :=
  (commonSign (openSigns clauses a u)).map (⟨u, ·⟩)

theorem pureLiteral_eq_some_iff {u : Nat} :
    pureLiteral? clauses a u = some l ↔ l.var = u ∧ PureIn clauses a l := by
  rw [pureLiteral?, Option.map_eq_some_iff]
  constructor
  · intro found
    obtain ⟨sign, common, rfl⟩ := found
    exact ⟨rfl, commonSign_openSigns_iff.1 common⟩
  · intro found
    obtain ⟨rfl, single⟩ := found
    exact ⟨l.positive, commonSign_openSigns_iff.2 single, rfl⟩

theorem findPure_eq (covers : a.Covers clauses) :
    findPure pool clauses a = .ok (pool.findSome? (pureLiteral? clauses a)) := by
  have unsatisfied : clauses.filterM (fun c => return !(← c.isSatisfied a)) =
      Except.ok (clauses.filter fun c => ¬ c.SatisfiedBy a) := by
    apply filterM_eq_ok
    intro c member
    rw [isSatisfied_eq (covers c member), ok_bind, ← decide_not]
    rfl
  rw [findPure, unsatisfied]
  rfl

theorem findPure_pure (covers : a.Covers clauses)
    (run : findPure pool clauses a = .ok (some l)) : l.var ∈ pool ∧ PureIn clauses a l := by
  rw [findPure_eq covers, Except.ok.injEq] at run
  obtain ⟨u, member, found⟩ := List.exists_of_findSome?_eq_some run
  obtain ⟨rfl, single⟩ := pureLiteral_eq_some_iff.1 found
  exact ⟨member, single⟩

/-- Why a literal is chosen, with the choices that came to nothing before. -/
inductive Chosen (pool : List Nat) (clauses : List Clause) (a : Assignment) :
    Reason → Literal → Prop where
  | pureLiteral {l : Literal} (found : findPure pool clauses a = .ok (some l)) :
      Chosen pool clauses a .pureLiteral l
  | unitClause {l : Literal} (impure : findPure pool clauses a = .ok none)
      (found : findUnit a clauses = .ok (some l)) : Chosen pool clauses a .unitClause l
  | decision {u : Nat} (impure : findPure pool clauses a = .ok none)
      (unforced : findUnit a clauses = .ok none) (first : pool.head? = some u) :
      Chosen pool clauses a .decision ⟨u, true⟩

theorem choose_total (covers : a.Covers clauses) (nonempty : pool ≠ []) :
    ∃ reason l, choose pool clauses a = .ok (some (reason, l)) ∧
      Chosen pool clauses a reason l := by
  obtain ⟨pureChoice, impure⟩ : ∃ p, findPure pool clauses a = .ok p := ⟨_, findPure_eq covers⟩
  obtain ⟨unitChoice, unforced⟩ : ∃ u, findUnit a clauses = .ok u := ⟨_, findUnit_eq covers⟩
  rw [choose, impure, ok_bind]
  cases pureChoice with
  | some l => exact ⟨.pureLiteral, l, rfl, .pureLiteral impure⟩
  | none =>
    rw [unforced]
    cases unitChoice with
    | some l => exact ⟨.unitClause, l, rfl, .unitClause impure unforced⟩
    | none =>
      obtain ⟨u, rest, rfl⟩ := List.exists_cons_of_ne_nil nonempty
      exact ⟨.decision, ⟨u, true⟩, rfl, .decision impure unforced rfl⟩

theorem chosen_of_choose {reason : Reason}
    (choice : choose pool clauses a = .ok (some (reason, l))) : Chosen pool clauses a reason l := by
  rw [choose] at choice
  obtain ⟨pureChoice, impure, choice⟩ := bind_eq_ok.1 choice
  cases pureChoice with
  | some k =>
    cases choice
    exact .pureLiteral impure
  | none =>
    obtain ⟨unitChoice, unforced, choice⟩ := bind_eq_ok.1 choice
    cases unitChoice with
    | some k =>
      cases choice
      exact .unitClause impure unforced
    | none =>
      obtain ⟨u, first, same⟩ := Option.map_eq_some_iff.1 (pure_eq_ok_iff.1 choice)
      cases same
      exact .decision impure unforced first

theorem chosen_open (covers : a.Covers clauses) {reason : Reason}
    (chosen : Chosen a.unbound clauses a reason l) : a.Open l.var := by
  cases chosen with
  | pureLiteral found => exact Assignment.mem_unbound.1 (findPure_pure covers found).1
  | unitClause impure found =>
    obtain ⟨c, -, -, only⟩ := findUnit_unit covers found
    exact (Clause.open_of_unassigned only).2
  | decision impure unforced first =>
    exact Assignment.mem_unbound.1 (List.mem_of_mem_head? first)

theorem unit_forces (inside : ∀ k ∈ c.literals, k.var < a.size) (unsatisfied : ¬ c.SatisfiedBy a)
    (only : c.unassigned a = [l]) (above : v.Extends a) (holds : c.Holds v) : l.Holds v := by
  obtain ⟨k, member, holding⟩ := holds
  rcases Assignment.makes_or_open (inside k member) with made | refuted | unset
  · exact absurd ⟨k, member, made⟩ unsatisfied
  · exact absurd holding (not_holds_of_refuted above refuted)
  · have listed := Clause.mem_unassigned.2 ⟨member, unset⟩
    rw [only, List.mem_singleton] at listed
    exact listed ▸ holding

def Valuation.set (v : Valuation) (l : Literal) : Valuation :=
  fun u => if u = l.var then l.positive else v u

theorem set_holds_self : l.Holds (v.set l) := by
  simp [Literal.Holds, Valuation.set]

theorem set_holds_of_ne {k : Literal} (holds : k.Holds v) (other : k ≠ l.negate) :
    k.Holds (v.set l) := by
  unfold Literal.Holds Valuation.set
  split
  · rename_i same
    rcases Literal.eq_or_eq_negate same with rfl | opposite
    · rfl
    · exact absurd opposite other
  · exact holds

theorem set_extends (above : v.Extends a) (possible : ¬ a.Makes l.negate) :
    (v.set l).Extends a := by
  rw [extends_iff_makes] at above ⊢
  intro k made
  apply set_holds_of_ne (above k made)
  intro opposite
  subst opposite
  exact possible made

/-- A pure literal may be made true: the clauses that hold above the assignment still hold. -/
theorem pure_exchange (single : PureIn clauses a l) (unset : a.Open l.var)
    (above : v.Extends a) (holds : AllHold v clauses) :
    (v.set l).Extends a ∧ AllHold (v.set l) clauses := by
  have still_above : (v.set l).Extends a :=
    set_extends above (Assignment.not_makes_of_open (l := l.negate) unset)
  refine ⟨still_above, fun c member => ?_⟩
  by_cases satisfied : c.SatisfiedBy a
  · exact satisfied_holds still_above satisfied
  · obtain ⟨k, inside, holding⟩ := holds c member
    -- the true literal of an unsatisfied clause is not the one that the change makes false
    have other : k ≠ l.negate := by
      intro opposite
      exact single.2 c member satisfied (opposite ▸ inside)
    exact ⟨k, inside, set_holds_of_ne holding other⟩

def SatisfiableAbove (clauses : List Clause) (a : Assignment) : Prop :=
  ∃ v : Valuation, v.Extends a ∧ AllHold v clauses

theorem satisfiableAbove_pure_iff (single : PureIn clauses a l) (bound : a.bind l = .ok b) :
    SatisfiableAbove clauses a ↔ SatisfiableAbove clauses b := by
  constructor
  · intro satisfiable
    obtain ⟨v, above, holds⟩ := satisfiable
    obtain ⟨still_above, still_holds⟩ :=
      pure_exchange single (Assignment.open_of_bind bound) above holds
    exact ⟨v.set l, (extends_of_bind_iff bound).2 ⟨still_above, set_holds_self⟩, still_holds⟩
  · intro satisfiable
    obtain ⟨v, above, holds⟩ := satisfiable
    exact ⟨v, ((extends_of_bind_iff bound).1 above).1, holds⟩

end ClausalSearch
