import ClausalSearch.Proofs.Fallible
import ClausalSearch.Formula
import Mathlib.Data.List.Nodup

/-!
Partial assignments by what they make true. `Legal` assignments are those that bindings produce
from the empty one: their table and their stack agree, and binding the trail again from the empty
assignment gives them back.
-/
namespace ClausalSearch

namespace Assignment

variable {a b : Assignment} {k l : Literal} {n u : Nat}

def Makes (a : Assignment) (l : Literal) : Prop := a.values[l.var]? = some (some l.positive)

def Open (a : Assignment) (u : Nat) : Prop := a.values[u]? = some none

instance : Decidable (a.Makes l) := inferInstanceAs (Decidable (_ = _))

instance : Decidable (a.Open u) := inferInstanceAs (Decidable (_ = _))

theorem open_lt_size (h : a.Open u) : u < a.size :=
  (Array.getElem?_eq_some_iff.1 h).1

theorem makes_negate_iff : a.Makes l.negate ↔ a.values[l.var]? = some (some !l.positive) :=
  Iff.rfl

theorem not_makes_negate (h : a.Makes l) : ¬ a.Makes l.negate := by
  intro refuted
  rw [makes_negate_iff, h] at refuted
  simp at refuted

theorem not_makes_of_open (h : a.Open l.var) : ¬ a.Makes l := by
  intro made
  rw [Makes, h] at made
  cases made

theorem makes_or_open (inside : l.var < a.size) :
    a.Makes l ∨ a.Makes l.negate ∨ a.Open l.var := by
  have entry := Array.getElem?_eq_getElem inside
  rw [makes_negate_iff, Makes, Open, entry]
  cases a.values[l.var] with
  | none => simp
  | some sign => cases sign <;> cases l.positive <;> simp

theorem literalValue_of_makes (h : a.Makes l) : a.literalValue l = .ok (some true) := by
  unfold Makes at h
  simp [literalValue, value, h, pure, Except.pure]

theorem literalValue_of_refuted (h : a.Makes l.negate) :
    a.literalValue l = .ok (some false) := by
  rw [makes_negate_iff] at h
  simp [literalValue, value, h, pure, Except.pure]

theorem literalValue_of_open (h : a.Open l.var) : a.literalValue l = .ok none := by
  unfold Open at h
  simp [literalValue, value, h, pure, Except.pure]

theorem isBound_eq (inside : u < a.size) : a.isBound u = .ok (decide ¬ a.Open u) := by
  have entry : a.values[u]? = some a.values[u] := Array.getElem?_eq_getElem inside
  simp only [isBound, value, Open, entry, ok_bind, pure, Except.pure]
  cases a.values[u] <;> rfl

section Binding

variable (bound : a.bind l = .ok b)
include bound

theorem open_of_bind : a.Open l.var := (bind_eq_ok_iff.1 bound).1

theorem bound_of_bind : b.bound = l :: a.bound := by
  rw [(bind_eq_ok_iff.1 bound).2]

theorem trail_of_bind : b.trail = a.trail ++ [l] := by
  rw [trail, bound_of_bind bound, List.reverse_cons, trail]

theorem size_of_bind : b.size = a.size := by
  rw [(bind_eq_ok_iff.1 bound).2, size, Array.size_setIfInBounds, size]

theorem values_of_bind (u : Nat) :
    b.values[u]? = if u = l.var then some (some l.positive) else a.values[u]? := by
  obtain ⟨unset, same⟩ := bind_eq_ok_iff.1 bound
  rw [same, Array.getElem?_setIfInBounds]
  by_cases eq : l.var = u
  · subst eq
    have inside : l.var < a.values.size := open_lt_size unset
    simp [inside]
  · simp [eq, Ne.symm eq]

theorem makes_of_bind_iff : b.Makes k ↔ k = l ∨ a.Makes k := by
  rw [Makes, values_of_bind bound k.var, Makes]
  by_cases same : k.var = l.var
  · have unset := open_of_bind bound
    rw [Open, ← same] at unset
    rw [if_pos same, unset]
    obtain ⟨x, p⟩ := k
    obtain ⟨y, q⟩ := l
    cases same
    simp [eq_comm]
  · rw [if_neg same]
    constructor
    · exact Or.inr
    · rintro (rfl | made)
      · exact absurd rfl same
      · exact made

theorem open_of_bind_iff : b.Open u ↔ a.Open u ∧ u ≠ l.var := by
  rw [Open, values_of_bind bound u, Open]
  by_cases same : u = l.var <;> simp [same]

end Binding

theorem bind_of_open (h : a.Open l.var) : ∃ b, a.bind l = .ok b :=
  ⟨_, bind_eq_ok_iff.2 ⟨h, rfl⟩⟩

@[simp] theorem mem_unbound : u ∈ a.unbound ↔ a.Open u := by
  simp only [unbound, List.mem_filter, List.mem_range, beq_iff_eq]
  exact ⟨And.right, fun h => ⟨open_lt_size h, h⟩⟩

theorem unbound_ascending (a : Assignment) : a.unbound.Pairwise (· < ·) :=
  List.pairwise_lt_range.filter _

theorem unbound_nodup (a : Assignment) : a.unbound.Nodup :=
  List.nodup_range.filter _

theorem unbound_of_bind (bound : a.bind l = .ok b) :
    b.unbound = a.unbound.filter (· ≠ l.var) := by
  rw [unbound, size_of_bind bound, unbound, List.filter_filter]
  congr 1
  funext u
  have settled := open_of_bind_iff bound (u := u)
  simp only [Open] at settled
  rw [Bool.eq_iff_iff]
  simpa [and_comm] using settled

/-- Bindings alone lead from the empty assignment of `n` variables to this one. -/
inductive Legal (n : Nat) : Assignment → Prop where
  | empty : Legal n (.empty n)
  | bind {a b : Assignment} {l : Literal} (legal : Legal n a) (bound : a.bind l = .ok b) :
      Legal n b

theorem size_of_legal (h : a.Legal n) : a.size = n := by
  induction h with
  | empty => simp [size, empty]
  | bind legal bound ih => rw [size_of_bind bound, ih]

theorem trail_lt_of_legal (h : a.Legal n) : ∀ l ∈ a.trail, l.var < n := by
  induction h with
  | empty => simp [trail, empty]
  | bind legal bound ih =>
    intro l member
    rw [trail_of_bind bound, List.mem_append, List.mem_singleton] at member
    rcases member with before | rfl
    · exact ih l before
    · exact size_of_legal legal ▸ open_lt_size (open_of_bind bound)

theorem open_iff_of_legal (h : a.Legal n) :
    a.Open u ↔ u < n ∧ u ∉ a.trail.map Literal.var := by
  induction h with
  | empty => simp [Open, empty, trail, Array.getElem?_replicate]
  | bind legal bound ih =>
    rw [open_of_bind_iff bound, ih, trail_of_bind bound]
    simp [and_assoc]

theorem makes_iff_of_legal (h : a.Legal n) : a.Makes l ↔ l ∈ a.trail := by
  induction h with
  | empty => simp [Makes, empty, trail, Array.getElem?_replicate]
  | bind legal bound ih =>
    rw [makes_of_bind_iff bound, ih, trail_of_bind bound, List.mem_append, List.mem_singleton,
      or_comm]

theorem trail_nodup_of_legal (h : a.Legal n) : (a.trail.map Literal.var).Nodup := by
  induction h with
  | empty => exact List.nodup_nil
  | bind legal bound ih =>
    have fresh := ((open_iff_of_legal legal).1 (open_of_bind bound)).2
    rw [trail_of_bind bound, List.map_append]
    exact ih.append (List.nodup_singleton _) (List.disjoint_singleton.2 fresh)

theorem unbound_of_legal (h : a.Legal n) :
    a.unbound = (List.range n).filter fun u => u ∉ a.trail.map Literal.var := by
  rw [unbound, size_of_legal h]
  apply List.filter_congr
  intro u member
  have known := open_iff_of_legal h (u := u)
  rw [Open, and_iff_right (List.mem_range.1 member)] at known
  rw [Bool.eq_iff_iff, beq_iff_eq, decide_eq_true_iff]
  exact known

theorem trail_subset_of_legal (h : a.Legal n) : a.trail.map Literal.var ⊆ List.range n := by
  intro u listed
  obtain ⟨l, member, rfl⟩ := List.mem_map.1 listed
  exact List.mem_range.2 (trail_lt_of_legal h l member)

theorem length_trail (a : Assignment) : a.trail.length = a.depth := by
  rw [trail, List.length_reverse, depth]

/-- No variable is bound twice, so there are no more bindings than variables. -/
theorem depth_le_of_legal (h : a.Legal n) : a.depth ≤ n := by
  have most := (trail_nodup_of_legal h).length_le_of_subset (trail_subset_of_legal h)
  rw [List.length_map, length_trail, List.length_range] at most
  exact most

theorem isTotal_iff_of_legal (h : a.Legal n) : a.isTotal = true ↔ ∀ u < n, ¬ a.Open u := by
  have distinct := trail_nodup_of_legal h
  have within := trail_subset_of_legal h
  have length : (a.trail.map Literal.var).length = a.depth := by rw [List.length_map, length_trail]
  rw [isTotal, beq_iff_eq, size_of_legal h, ← length]
  constructor
  · intro full u inside unset
    have fresh := ((open_iff_of_legal h).1 unset).2
    have longer := (List.nodup_cons.2 ⟨fresh, distinct⟩).length_le_of_subset
      (List.cons_subset.2 ⟨List.mem_range.2 inside, within⟩)
    rw [List.length_cons, List.length_range] at longer
    omega
  · intro every
    have complete : List.range n ⊆ a.trail.map Literal.var := by
      intro u inside
      by_contra absent
      exact every u (List.mem_range.1 inside)
        ((open_iff_of_legal h).2 ⟨List.mem_range.1 inside, absent⟩)
    have least := List.nodup_range.length_le_of_subset complete
    have most := depth_le_of_legal h
    rw [List.length_range] at least
    omega

theorem eq_unbound_of_ascending {pool : List Nat} (ascending : pool.Pairwise (· < ·))
    (members : ∀ u, u ∈ pool ↔ a.Open u) : pool = a.unbound := by
  have distinct : pool.Nodup := ascending.imp Nat.ne_of_lt
  have same : pool.Perm a.unbound := by
    rw [List.perm_ext_iff_of_nodup distinct (unbound_nodup a)]
    intro u
    rw [members, mem_unbound]
  apply same.eq_of_pairwise ?_ ascending (unbound_ascending a)
  intro x y _ _ below above
  exact absurd above (Nat.lt_asymm below)

def bindAll (a : Assignment) (trail : List Literal) : Except Fault Assignment :=
  trail.foldlM bind a

def ofTrail (n : Nat) (trail : List Literal) : Except Fault Assignment := (empty n).bindAll trail

theorem bindAll_cons {rest : List Literal} (bound : a.bind l = .ok b) :
    a.bindAll (l :: rest) = b.bindAll rest := by
  rw [bindAll, List.foldlM_cons, bound, ok_bind, bindAll]

end Assignment

theorem extends_iff_makes {v : Valuation} {a : Assignment} :
    v.Extends a ↔ ∀ l, a.Makes l → l.Holds v :=
  ⟨fun h l made => h l.var l.positive made, fun h u sign entry => h ⟨u, sign⟩ entry⟩

theorem not_holds_of_refuted {v : Valuation} {a : Assignment} {l : Literal} (above : v.Extends a)
    (refuted : a.Makes l.negate) : ¬ l.Holds v := by
  intro holds
  have opposite : l.negate.Holds v := extends_iff_makes.1 above l.negate refuted
  rw [Literal.Holds, Literal.var_negate, holds, Literal.negate] at opposite
  simp at opposite

theorem extends_empty (v : Valuation) (n : Nat) : v.Extends (.empty n) := by
  intro u sign entry
  simp [Assignment.empty, Array.getElem?_replicate] at entry

theorem extends_of_bind_iff {v : Valuation} {a b : Assignment} {l : Literal}
    (bound : a.bind l = .ok b) : v.Extends b ↔ v.Extends a ∧ l.Holds v := by
  simp only [extends_iff_makes, Assignment.makes_of_bind_iff bound]
  constructor
  · intro h
    exact ⟨fun k made => h k (Or.inr made), h l (Or.inl rfl)⟩
  · rintro ⟨before, new⟩ k (rfl | made)
    · exact new
    · exact before k made

end ClausalSearch
