import Mathlib.Data.List.Forall2

/-!
Computations that may fail, over lists. A loop whose steps all succeed is the pure loop over their
results, and a loop fails where its first failing step does. `Ends` says what a computation may end
in, and a loop ends in what its steps end in.
-/
namespace ClausalSearch

variable {ε α β : Type}

@[simp] theorem ok_bind (x : α) (f : α → Except ε β) : (Except.ok x >>= f) = f x := rfl

@[simp] theorem error_bind (e : ε) (f : α → Except ε β) :
    (Except.error e >>= f) = Except.error e := rfl

@[simp] theorem ok_map (x : α) (f : α → β) : f <$> (Except.ok x : Except ε α) = .ok (f x) := rfl

theorem bind_eq_ok {x : Except ε α} {f : α → Except ε β} {y : β} :
    (x >>= f) = .ok y ↔ ∃ a, x = .ok a ∧ f a = .ok y := by
  cases x <;> simp

@[simp] theorem pure_eq_ok_iff {x y : α} : (pure x : Except ε α) = .ok y ↔ x = y := by
  simp [pure, Except.pure]

@[simp] theorem pure_ne_error {x : α} {e : ε} : (pure x : Except ε α) ≠ .error e := nofun

@[simp] theorem map_eq_ok_iff {x : Except ε α} {f : α → β} {y : β} :
    x.map f = .ok y ↔ ∃ a, x = .ok a ∧ f a = y := by
  cases x <;> simp [Except.map]

theorem eq_of_map_eq_ok {x : Except ε α} {f : α → β} {a : α} {y : β} (computed : x.map f = .ok y)
    (run : x = .ok a) : f a = y := by
  rw [run] at computed
  exact Except.ok.inj computed

@[simp] theorem map_eq_error_iff {x : Except ε α} {f : α → β} {e : ε} :
    x.map f = .error e ↔ x = .error e := by
  cases x <;> simp [Except.map]

theorem bind_eq_error {x : Except ε α} {f : α → Except ε β} {e : ε} :
    (x >>= f) = .error e ↔ x = .error e ∨ ∃ a, x = .ok a ∧ f a = .error e := by
  cases x <;> simp

@[simp] theorem mapError_eq_ok_iff {δ : Type} {x : Except δ α} {f : δ → ε} {y : α} :
    x.mapError f = .ok y ↔ x = .ok y := by
  cases x <;> simp [Except.mapError]

@[simp] theorem mapError_eq_error_iff {δ : Type} {x : Except δ α} {f : δ → ε} {e : ε} :
    x.mapError f = .error e ↔ ∃ cause, x = .error cause ∧ f cause = e := by
  cases x <;> simp [Except.mapError]

section Tests

variable {xs : List α} {f : α → Except ε Bool} {P : α → Prop} [DecidablePred P]

theorem anyM_eq_ok (steps : ∀ x ∈ xs, f x = .ok (decide (P x))) :
    xs.anyM f = .ok (decide (∃ x ∈ xs, P x)) := by
  induction xs with
  | nil => rfl
  | cons x xs ih =>
    have rest := ih fun y member => steps y (List.mem_cons_of_mem x member)
    rw [List.anyM, steps x (List.mem_cons_self ..), ok_bind]
    by_cases holds : P x
    · simp [holds, pure, Except.pure]
    · simp [holds, rest]

theorem allM_eq_ok (steps : ∀ x ∈ xs, f x = .ok (decide (P x))) :
    xs.allM f = .ok (decide (∀ x ∈ xs, P x)) := by
  induction xs with
  | nil => rfl
  | cons x xs ih =>
    have rest := ih fun y member => steps y (List.mem_cons_of_mem x member)
    rw [List.allM, steps x (List.mem_cons_self ..), ok_bind]
    by_cases holds : P x
    · simp [holds, rest]
    · simp [holds, pure, Except.pure]

theorem filterAuxM_eq_ok {acc : List α} (steps : ∀ x ∈ xs, f x = .ok (decide (P x))) :
    xs.filterAuxM f acc = .ok ((xs.filter fun x => P x).reverse ++ acc) := by
  induction xs generalizing acc with
  | nil => rfl
  | cons x xs ih =>
    rw [List.filterAuxM, steps x (List.mem_cons_self ..), ok_bind,
      ih fun y member => steps y (List.mem_cons_of_mem x member)]
    by_cases holds : P x <;> simp [holds]

theorem filterM_eq_ok (steps : ∀ x ∈ xs, f x = .ok (decide (P x))) :
    xs.filterM f = .ok (xs.filter fun x => P x) := by
  rw [List.filterM, filterAuxM_eq_ok steps, ok_bind, List.append_nil, List.reverse_reverse]
  rfl

end Tests

theorem mapM_total {xs : List α} {f : α → Except ε β}
    (steps : ∀ x ∈ xs, ∃ y, f x = .ok y) : ∃ ys, xs.mapM f = .ok ys := by
  induction xs with
  | nil => exact ⟨[], rfl⟩
  | cons x xs ih =>
    obtain ⟨y, first⟩ := steps x (List.mem_cons_self ..)
    obtain ⟨ys, rest⟩ := ih fun z member => steps z (List.mem_cons_of_mem x member)
    exact ⟨y :: ys, by rw [List.mapM_cons, first, ok_bind, rest]; rfl⟩

theorem mapM_eq_ok_iff {xs : List α} {ys : List β} {f : α → Except ε β} :
    xs.mapM f = .ok ys ↔ List.Forall₂ (fun x y => f x = .ok y) xs ys := by
  induction xs generalizing ys with
  | nil =>
    rw [List.mapM_nil, List.forall₂_nil_left_iff]
    exact ⟨fun same => (Except.ok.inj same).symm, fun empty => congrArg Except.ok empty.symm⟩
  | cons x xs ih =>
    rw [List.mapM_cons, bind_eq_ok, List.forall₂_cons_left_iff]
    constructor
    · rintro ⟨y, first, run⟩
      obtain ⟨rest, later, run⟩ := bind_eq_ok.1 run
      cases run
      exact ⟨y, rest, first, ih.1 later, rfl⟩
    · rintro ⟨y, rest, first, later, rfl⟩
      exact ⟨y, first, bind_eq_ok.2 ⟨rest, ih.2 later, rfl⟩⟩

theorem mapM_length {xs : List α} {ys : List β} {f : α → Except ε β} (run : xs.mapM f = .ok ys) :
    ys.length = xs.length :=
  (mapM_eq_ok_iff.1 run).length_eq.symm

theorem mapM_at {xs : List α} {ys : List β} {f : α → Except ε β} (run : xs.mapM f = .ok ys)
    {k : Nat} {x : α} (listed : xs[k]? = some x) : ∃ y, ys[k]? = some y ∧ f x = .ok y := by
  obtain ⟨inside, rfl⟩ := List.getElem?_eq_some_iff.1 listed
  obtain ⟨same, steps⟩ := List.forall₂_iff_get.1 (mapM_eq_ok_iff.1 run)
  exact ⟨ys[k], List.getElem?_eq_getElem (same ▸ inside), steps k inside (same ▸ inside)⟩

theorem mapM_inverse {xs : List α} {ys : List β} {f : α → Except ε β} {g : β → α}
    (steps : ∀ x y, f x = .ok y → g y = x) (run : xs.mapM f = .ok ys) : ys.map g = xs := by
  induction xs generalizing ys with
  | nil =>
    cases run
    rfl
  | cons x xs ih =>
    rw [List.mapM_cons] at run
    obtain ⟨first, head, run⟩ := bind_eq_ok.1 run
    obtain ⟨rest, tail, run⟩ := bind_eq_ok.1 run
    cases run
    rw [List.map_cons, steps x first head, ih tail]

theorem mem_right_of_forall₂ {R : α → β → Prop} {xs : List α} {ys : List β}
    (related : List.Forall₂ R xs ys) {y : β} (member : y ∈ ys) : ∃ x ∈ xs, R x y := by
  induction related with
  | nil => cases member
  | cons first rest ih =>
    rcases List.mem_cons.1 member with rfl | later
    · exact ⟨_, List.mem_cons_self .., first⟩
    · obtain ⟨x, inside, related⟩ := ih later
      exact ⟨x, List.mem_cons_of_mem _ inside, related⟩

theorem mapM_flatten (xss : List (List α)) (f : α → Except ε β) :
    xss.flatten.mapM f = List.flatten <$> xss.mapM (·.mapM f) := by
  induction xss with
  | nil => rfl
  | cons xs xss ih =>
    rw [List.flatten_cons, List.mapM_append, ih, List.mapM_cons]
    cases xs.mapM f with
    | error e => rfl
    | ok ys =>
      cases xss.mapM (·.mapM f) with
      | error e => rfl
      | ok yss => rfl

theorem foldlM_eq_ok_congr {xs : List β} {f g : α → β → Except ε α} {start last : α}
    (steps : ∀ s x t, f s x = .ok t ↔ g s x = .ok t) :
    xs.foldlM f start = .ok last ↔ xs.foldlM g start = .ok last := by
  induction xs generalizing start with
  | nil => rfl
  | cons x xs ih => simp only [List.foldlM_cons, bind_eq_ok, steps, ih]

/-- The first step that fails decides; the steps left out by `p` are not made. -/
theorem mapM_filter_eq_error_iff {xs : List α} {p : α → Bool} {f : α → Except ε β} {e : ε} :
    (xs.filter p).mapM f = .error e ↔ ∃ before x after, xs = before ++ x :: after ∧
      (∀ y ∈ before, p y → ∃ z, f y = .ok z) ∧ p x ∧ f x = .error e := by
  induction xs with
  | nil => simp [pure, Except.pure]
  | cons x xs ih =>
    by_cases kept : p x = true
    · rw [List.filter_cons_of_pos kept, List.mapM_cons, bind_eq_error]
      constructor
      · rintro (first | ⟨z, first, run⟩)
        · exact ⟨[], x, xs, rfl, List.forall_mem_nil _, kept, first⟩
        · obtain failed | ⟨zs, -, run⟩ := bind_eq_error.1 run
          · obtain ⟨before, y, after, rfl, passed, chosen, fails⟩ := ih.1 failed
            exact ⟨x :: before, y, after, rfl,
              List.forall_mem_cons.2 ⟨fun _ => ⟨z, first⟩, passed⟩, chosen, fails⟩
          · cases run
      · rintro ⟨before, y, after, split, passed, chosen, fails⟩
        cases before with
        | nil =>
          cases split
          exact .inl fails
        | cons b before =>
          obtain ⟨rfl, rfl⟩ := List.cons.inj split
          obtain ⟨now, later⟩ := List.forall_mem_cons.1 passed
          obtain ⟨z, first⟩ := now kept
          exact .inr ⟨z, first, bind_eq_error.2
            (.inl (ih.2 ⟨before, y, after, rfl, later, chosen, fails⟩))⟩
    · rw [List.filter_cons_of_neg kept, ih]
      constructor
      · rintro ⟨before, y, after, rfl, passed, chosen, fails⟩
        exact ⟨x :: before, y, after, rfl,
          List.forall_mem_cons.2 ⟨fun chosen => absurd chosen kept, passed⟩, chosen, fails⟩
      · rintro ⟨before, y, after, split, passed, chosen, fails⟩
        cases before with
        | nil =>
          cases split
          exact absurd chosen kept
        | cons b before =>
          obtain ⟨rfl, rfl⟩ := List.cons.inj split
          exact ⟨before, y, after, rfl, (List.forall_mem_cons.1 passed).2, chosen, fails⟩

theorem mapM_eq_error_iff {xs : List α} {f : α → Except ε β} {e : ε} :
    xs.mapM f = .error e ↔ ∃ before x after, xs = before ++ x :: after ∧
      (∀ y ∈ before, ∃ z, f y = .ok z) ∧ f x = .error e := by
  simpa using mapM_filter_eq_error_iff (p := fun _ : α => true) (f := f) (e := e)

theorem foldlM_eq_error_iff {xs : List β} {f : α → β → Except ε α} {start : α} {e : ε} :
    xs.foldlM f start = .error e ↔ ∃ before x after s, xs = before ++ x :: after ∧
      before.foldlM f start = .ok s ∧ f s x = .error e := by
  induction xs generalizing start with
  | nil => simp [pure, Except.pure]
  | cons x xs ih =>
    rw [List.foldlM_cons, bind_eq_error]
    constructor
    · rintro (first | ⟨next, first, failed⟩)
      · exact ⟨[], x, xs, start, rfl, rfl, first⟩
      · obtain ⟨before, y, after, s, rfl, reached, fails⟩ := ih.1 failed
        exact ⟨x :: before, y, after, s, rfl, bind_eq_ok.2 ⟨next, first, reached⟩, fails⟩
    · rintro ⟨before, y, after, s, split, reached, fails⟩
      cases before with
      | nil =>
        cases split
        cases reached
        exact .inl fails
      | cons b before =>
        obtain ⟨rfl, rfl⟩ := List.cons.inj split
        obtain ⟨next, first, reached⟩ := bind_eq_ok.1 reached
        exact .inr ⟨next, first, ih.2 ⟨before, y, after, s, rfl, reached, fails⟩⟩

section Ends

variable {P : α → Prop} {Q : β → Prop} {E : ε → Prop}

/-- The computation ends in a value that `P` admits or in an error that `E` admits. -/
def Ends (P : α → Prop) (E : ε → Prop) : Except ε α → Prop
  | .ok y => P y
  | .error e => E e

theorem of_ends {x : Except ε α} {y : α} (ends : Ends P E x) (run : x = .ok y) : P y := by
  rw [run] at ends
  exact ends

theorem error_of_ends {x : Except ε α} {e : ε} (ends : Ends P E x) (run : x = .error e) :
    E e := by
  rw [run] at ends
  exact ends

theorem ends_any (x : Except ε α) : Ends (fun _ => True) (fun _ => True) x := by
  cases x <;> trivial

theorem ends_bind {x : Except ε α} {f : α → Except ε β} (first : Ends P E x)
    (next : ∀ y, P y → Ends Q E (f y)) : Ends Q E (x >>= f) := by
  cases x with
  | error e => exact first
  | ok y => exact next y first

theorem ends_mapM {xs : List α} {f : α → Except ε β} (steps : ∀ x ∈ xs, Ends Q E (f x)) :
    Ends (fun ys => ∀ y ∈ ys, Q y) E (xs.mapM f) := by
  induction xs with
  | nil =>
    intro y member
    cases member
  | cons x xs ih =>
    rw [List.mapM_cons]
    have later := ih fun z member => steps z (List.mem_cons_of_mem x member)
    apply ends_bind (steps x (List.mem_cons_self ..))
    intro y first
    apply ends_bind later
    intro ys rest
    exact List.forall_mem_cons.2 ⟨first, rest⟩

theorem ends_foldlM {xs : List β} {f : α → β → Except ε α} {start : α} (initial : P start)
    (steps : ∀ s, ∀ x ∈ xs, P s → Ends P E (f s x)) : Ends P E (xs.foldlM f start) := by
  induction xs generalizing start with
  | nil => exact initial
  | cons x xs ih =>
    rw [List.foldlM_cons]
    apply ends_bind (steps start x (List.mem_cons_self ..) initial)
    exact fun next holds => ih holds fun s y later => steps s y (List.mem_cons_of_mem x later)

end Ends

end ClausalSearch
