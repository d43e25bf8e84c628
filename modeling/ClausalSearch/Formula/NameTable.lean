/-!
Name tables: the names that occur, each once, in code-point order. The number of a variable is
the rank of its name.
-/
namespace ClausalSearch.NameTable

def squeeze [DecidableEq α] (xs : List α) : List α :=
  xs.foldr (fun x rest => if rest.head? = some x then rest else x :: rest) []

def collect (names : List String) : List String :=
  squeeze (names.mergeSort fun a b => a ≤ b)

theorem squeeze_cons [DecidableEq α] (x : α) (xs : List α) :
    squeeze (x :: xs) = if (squeeze xs).head? = some x then squeeze xs else x :: squeeze xs := rfl

theorem mem_squeeze [DecidableEq α] {x : α} {xs : List α} : x ∈ squeeze xs ↔ x ∈ xs := by
  induction xs with
  | nil => rfl
  | cons y ys ih =>
    rw [squeeze_cons]
    split
    · rename_i same
      rw [List.mem_cons, ← ih]
      refine ⟨.inr, fun member => ?_⟩
      rcases member with rfl | member
      · exact List.mem_of_mem_head? same
      · exact member
    · simp [ih]

theorem squeeze_pairwise_lt {xs : List String} (sorted : xs.Pairwise (· ≤ ·)) :
    (squeeze xs).Pairwise (· < ·) := by
  induction xs with
  | nil => exact .nil
  | cons y ys ih =>
    obtain ⟨least, rest⟩ := List.pairwise_cons.1 sorted
    have ordered := ih rest
    rw [squeeze_cons]
    split
    · exact ordered
    · rename_i differs
      refine List.pairwise_cons.2 ⟨fun z member => ?_, ordered⟩
      have head_lt : ∀ h, (squeeze ys).head? = some h → y < h := fun h eq =>
        String.not_le.1 fun le => differs <| by
          rw [eq, String.le_antisymm le (least h (mem_squeeze.1 (List.mem_of_mem_head? eq)))]
      cases tail : squeeze ys with
      | nil => simp [tail] at member
      | cons h hs =>
        rw [tail] at member ordered head_lt
        rcases List.mem_cons.1 member with rfl | later
        · exact head_lt z rfl
        · exact String.lt_trans (head_lt h rfl) ((List.pairwise_cons.1 ordered).1 z later)

theorem mem_collect {name : String} {names : List String} :
    name ∈ collect names ↔ name ∈ names := by
  rw [collect, mem_squeeze, List.mem_mergeSort]

theorem collect_pairwise_lt (names : List String) : (collect names).Pairwise (· < ·) := by
  refine squeeze_pairwise_lt <| List.Pairwise.imp of_decide_eq_true <|
    List.pairwise_mergeSort ?_ ?_ names
  · simpa using fun a b c => @String.le_trans a b c
  · simpa using String.le_total

/-- Binary search between `lo` and `hi`, at the midpoint rounded down. -/
def rankWithin (names : Array String) (name : String) (lo hi : Nat) (within : hi ≤ names.size) :
    Option (Fin names.size) :=
  if nonempty : lo < hi then
    let mid := (lo + hi) / 2
    have inside : mid < names.size := by omega
    if name = names[mid] then some ⟨mid, inside⟩
    else if name < names[mid] then rankWithin names name lo mid (Nat.le_of_lt inside)
    else rankWithin names name (mid + 1) hi within
  else none
termination_by hi - lo

def rank? (names : Array String) (name : String) : Option (Fin names.size) :=
  rankWithin names name 0 names.size (Nat.le_refl _)

end ClausalSearch.NameTable
