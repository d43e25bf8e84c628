import ClausalSearch.NamedFormat
import ClausalSearch.Proofs.Fallible
import Mathlib.Data.List.Induction

/-!
Gathering the literals of one line. The clause of a line is the list of its literals, each at its
first place, and a literal whose opposite stands before it is an error. Both formats gather clauses
in this way and differ in how a token spells a literal.
-/
namespace ClausalSearch

variable {l : NamedLiteral} {literals seen clause : List NamedLiteral} {quoted : String}
  {tokens : List (List Char)} {spell : List Char → Except FormatError NamedLiteral}
  {e : FormatError}

def NamedLiteral.negate (l : NamedLiteral) : NamedLiteral := { l with positive := !l.positive }

@[simp] theorem NamedLiteral.negate_negate (l : NamedLiteral) : l.negate.negate = l := by
  simp [negate]

theorem NamedLiteral.eq_of_same_sign {k l : NamedLiteral} (name : k.name = l.name)
    (sign : k.positive = l.positive) : k = l := by
  cases k
  cases l
  simp_all

theorem NamedLiteral.eq_negate_of_other_sign {k l : NamedLiteral} (name : k.name = l.name)
    (sign : k.positive ≠ l.positive) : k = l.negate :=
  eq_of_same_sign name (Bool.eq_not_of_ne sign)

def Consistent (literals : List NamedLiteral) : Prop := ∀ l ∈ literals, l.negate ∉ literals

instance : Decidable (Consistent literals) :=
  inferInstanceAs (Decidable (∀ l ∈ literals, _))

theorem consistent_nil : Consistent [] := List.forall_mem_nil _

theorem consistent_concat_iff :
    Consistent (literals ++ [l]) ↔ Consistent literals ∧ l.negate ∉ literals := by
  simp only [Consistent, List.mem_append, List.mem_singleton]
  constructor
  · intro consistent
    constructor
    · intro k member opposite
      exact consistent k (.inl member) (.inl opposite)
    · intro opposite
      exact consistent l (.inr rfl) (.inl opposite)
  · rintro ⟨consistent, fresh⟩ k (member | rfl) (opposite | same)
    · exact consistent k member opposite
    · rw [← same, NamedLiteral.negate_negate] at fresh
      exact fresh member
    · exact fresh opposite
    · have sign := congrArg NamedLiteral.positive same
      simp [NamedLiteral.negate] at sign

theorem consistent_of_append (consistent : Consistent (seen ++ literals)) : Consistent seen :=
  fun l member opposite => consistent l (List.mem_append_left _ member)
    (List.mem_append_left _ opposite)

theorem consistent_eraseDups_iff : Consistent literals.eraseDups ↔ Consistent literals := by
  simp only [Consistent, List.mem_eraseDups]

theorem eraseDups_concat {α : Type} [DecidableEq α] (xs : List α) (x : α) :
    (xs ++ [x]).eraseDups = if x ∈ xs then xs.eraseDups else xs.eraseDups ++ [x] := by
  rw [List.eraseDups_append]
  split
  · rename_i member
    simp [List.removeAll, member]
  · rename_i fresh
    simp [List.removeAll, fresh, List.eraseDups_cons]

theorem eraseDups_map {α β : Type} [DecidableEq α] [DecidableEq β] {f : α → β}
    (injective : Function.Injective f) (xs : List α) :
    (xs.map f).eraseDups = xs.eraseDups.map f := by
  induction xs using List.reverseRecOn with
  | nil => rfl
  | append_singleton xs x ih =>
    rw [List.map_append, List.map_singleton, eraseDups_concat, eraseDups_concat]
    simp only [List.mem_map_of_injective injective, ih]
    split
    · rfl
    · rw [List.map_append, List.map_singleton]

namespace NamedFormat

theorem addLiteral_eq (consistent : Consistent clause) : addLiteral quoted clause l =
    if l.negate ∈ clause then .error (.contradictoryLiteral quoted l.name)
    else if l ∈ clause then .ok clause else .ok (clause ++ [l]) := by
  unfold addLiteral
  split
  · rename_i unseen
    have fresh : ∀ k ∈ clause, k.name ≠ l.name := by simpa using unseen
    have unopposed : l.negate ∉ clause := fun member => fresh l.negate member rfl
    have unlisted : l ∉ clause := fun member => fresh l member rfl
    rw [if_neg unopposed, if_neg unlisted]
  · rename_i seen found
    have member := List.mem_of_find?_eq_some found
    have name : seen.name = l.name := by simpa using List.find?_some found
    split
    · rename_i sign
      obtain rfl := NamedLiteral.eq_of_same_sign name sign
      rw [if_neg (consistent seen member), if_pos member]
    · rename_i sign
      obtain rfl := NamedLiteral.eq_negate_of_other_sign name sign
      rw [if_pos member]

theorem addLiteral_eraseDups (consistent : Consistent seen) :
    addLiteral quoted seen.eraseDups l =
      if l.negate ∈ seen then .error (.contradictoryLiteral quoted l.name)
      else .ok (seen ++ [l]).eraseDups := by
  rw [addLiteral_eq (consistent_eraseDups_iff.2 consistent), eraseDups_concat]
  simp only [List.mem_eraseDups]
  split
  · rfl
  · split <;> rfl

def gather (spell : List Char → Except FormatError NamedLiteral) (quoted : String)
    (clause : List NamedLiteral) (tokens : List (List Char)) :
    Except FormatError (List NamedLiteral) :=
  tokens.foldlM (fun clause token => spell token >>= addLiteral quoted clause) clause

def Spelled (spell : List Char → Except FormatError NamedLiteral) (tokens : List (List Char))
    (literals : List NamedLiteral) : Prop :=
  List.Forall₂ (fun token l => spell token = .ok l) tokens literals

theorem gather_eq_ok_iff (consistent : Consistent seen) :
    gather spell quoted seen.eraseDups tokens = .ok clause ↔
      ∃ literals, Spelled spell tokens literals ∧ Consistent (seen ++ literals) ∧
        clause = (seen ++ literals).eraseDups := by
  -- what was gathered so far is always the literals seen so far, without their repetitions
  induction tokens generalizing seen with
  | nil =>
    constructor
    · intro run
      cases run
      exact ⟨[], .nil, by simpa using consistent, by simp⟩
    · rintro ⟨literals, spelled, -, rfl⟩
      cases spelled
      simp [gather, pure, Except.pure]
  | cons token tokens ih =>
    rw [gather, List.foldlM_cons, bind_eq_ok]
    constructor
    · rintro ⟨next, step, run⟩
      obtain ⟨l, spelled, added⟩ := bind_eq_ok.1 step
      rw [addLiteral_eraseDups consistent] at added
      split at added
      · cases added
      · rename_i fresh
        cases added
        obtain ⟨literals, later, consistent, rfl⟩ :=
          (ih (consistent_concat_iff.2 ⟨consistent, fresh⟩)).1 run
        exact ⟨l :: literals, .cons spelled later, by simpa using consistent, by simp⟩
    · rintro ⟨literals, spelled, whole, same⟩
      obtain ⟨l, literals, first, later, rfl⟩ := List.forall₂_cons_left_iff.1 spelled
      rw [← List.singleton_append, ← List.append_assoc] at whole same
      have longer := consistent_of_append whole
      refine ⟨(seen ++ [l]).eraseDups, ?_, (ih longer).2 ⟨literals, later, whole, same⟩⟩
      rw [first, ok_bind, addLiteral_eraseDups consistent,
        if_neg (consistent_concat_iff.1 longer).2]

theorem gather_nil_eq_ok_iff : gather spell quoted [] tokens = .ok clause ↔
    ∃ literals, Spelled spell tokens literals ∧ Consistent literals ∧
      clause = literals.eraseDups :=
  gather_eq_ok_iff consistent_nil

/-- The first token that spells no literal, or the opposite of an earlier one, is the error. -/
theorem gather_nil_eq_error_iff : gather spell quoted [] tokens = .error e ↔
    ∃ before token after literals, tokens = before ++ token :: after ∧
      Spelled spell before literals ∧ Consistent literals ∧
      (spell token = .error e ∨ ∃ l, spell token = .ok l ∧ l.negate ∈ literals ∧
        e = .contradictoryLiteral quoted l.name) := by
  rw [gather, foldlM_eq_error_iff]
  constructor
  · rintro ⟨before, token, after, clause, rfl, run, failed⟩
    obtain ⟨literals, spelled, consistent, rfl⟩ := gather_nil_eq_ok_iff.1 run
    refine ⟨before, token, after, literals, rfl, spelled, consistent, ?_⟩
    rcases bind_eq_error.1 failed with misspelled | ⟨l, spelled, rejected⟩
    · exact .inl misspelled
    · rw [addLiteral_eraseDups consistent] at rejected
      split at rejected
      · rename_i opposite
        cases rejected
        exact .inr ⟨l, spelled, opposite, rfl⟩
      · cases rejected
  · rintro ⟨before, token, after, literals, rfl, spelled, consistent, fault⟩
    refine ⟨before, token, after, literals.eraseDups, rfl,
      gather_nil_eq_ok_iff.2 ⟨literals, spelled, consistent, rfl⟩, bind_eq_error.2 ?_⟩
    rcases fault with misspelled | ⟨l, spelled, opposite, rfl⟩
    · exact .inl misspelled
    · exact .inr ⟨l, spelled, by rw [addLiteral_eraseDups consistent, if_pos opposite]⟩

end NamedFormat

end ClausalSearch
