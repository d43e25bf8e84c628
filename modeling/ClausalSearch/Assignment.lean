import ClausalSearch.Fault
import ClausalSearch.Literal

/-!
Partial assignments: a table of values and the stack of bound literals, newest first. The trail
is the same stack in binding order. A variable outside the table is a fault of every access.
-/
namespace ClausalSearch

structure Assignment where
  values : Array (Option Bool)
  bound : List Literal
  deriving DecidableEq, Repr

namespace Assignment

def empty (size : Nat) : Assignment := ⟨Array.replicate size none, []⟩

def size (a : Assignment) : Nat := a.values.size

def trail (a : Assignment) : List Literal := a.bound.reverse

def depth (a : Assignment) : Nat := a.bound.length

def isEmpty (a : Assignment) : Bool := a.bound.isEmpty

def isTotal (a : Assignment) : Bool := a.depth == a.size

def value (a : Assignment) (v : Nat) : Except Fault (Option Bool) :=
  match a.values[v]? with
  | some b => .ok b
  | none => .error (.outOfRange a.size v)

def literalValue (a : Assignment) (l : Literal) : Except Fault (Option Bool) :=
  return (← a.value l.var).map (· == l.positive)

def isBound (a : Assignment) (v : Nat) : Except Fault Bool :=
  return (← a.value v).isSome

/-- Makes the literal true. A rejected binding changes nothing, and its range is checked first. -/
def bind (a : Assignment) (l : Literal) : Except Fault Assignment := do
  if ← a.isBound l.var then throw .alreadyBound
  return ⟨a.values.setIfInBounds l.var (some l.positive), l :: a.bound⟩

def unbind (a : Assignment) : Option (Literal × Assignment) :=
  match a.bound with
  | [] => none
  | l :: rest => some (l, ⟨a.values.setIfInBounds l.var none, rest⟩)

theorem bind_eq_ok_iff {a b : Assignment} {l : Literal} :
    a.bind l = .ok b ↔ a.values[l.var]? = some none ∧
      b = ⟨a.values.setIfInBounds l.var (some l.positive), l :: a.bound⟩ := by
  unfold bind isBound value
  rcases a.values[l.var]? with _ | _ | sign <;>
    simp [Bind.bind, Except.bind, Pure.pure, Except.pure, throw, throwThe, MonadExceptOf.throw,
      eq_comm]

theorem unbind_of_bind {a b : Assignment} {l : Literal} (h : a.bind l = .ok b) :
    b.unbind = some (l, a) := by
  obtain ⟨unset, rfl⟩ := bind_eq_ok_iff.1 h
  have restored : a.values.setIfInBounds l.var none = a.values := by
    apply Array.ext_getElem?
    intro i
    rw [Array.getElem?_setIfInBounds]
    split
    · rename_i same
      subst same
      split
      · exact unset.symm
      · rename_i outside
        simp [Array.getElem?_eq_none (Nat.le_of_not_lt outside)] at unset
    · rfl
  simp only [unbind, Array.setIfInBounds_setIfInBounds, restored]

def unbound (a : Assignment) : List Nat :=
  (List.range a.size).filter fun v => a.values[v]? == some none

end Assignment

end ClausalSearch
