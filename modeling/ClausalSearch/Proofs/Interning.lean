import ClausalSearch.Formula
import ClausalSearch.Proofs.Fallible
import Mathlib.Data.List.Nodup

/-!
Interning of names. The binary search finds every name of an ordered table, so clauses that repeat
no name are interned without a fault, and the formula gives back their names and signs.
-/
namespace ClausalSearch

namespace NameTable

variable {names : Array String} {name : String}

theorem rankWithin_sound {lo hi : Nat} {within : hi ≤ names.size} {v : Fin names.size}
    (found : rankWithin names name lo hi within = some v) : names[v] = name := by
  induction lo, hi, within using rankWithin.induct names name with
  | case1 lo hi within nonempty mid inside same =>
    rw [rankWithin, dif_pos nonempty, if_pos same] at found
    cases found
    exact same.symm
  | case2 lo hi within nonempty mid inside differs below ih =>
    rw [rankWithin, dif_pos nonempty, if_neg differs, if_pos below] at found
    exact ih found
  | case3 lo hi within nonempty mid inside differs above ih =>
    rw [rankWithin, dif_pos nonempty, if_neg differs, if_neg above] at found
    exact ih found
  | case4 lo hi within empty =>
    rw [rankWithin, dif_neg empty] at found
    cases found

theorem names_lt (ordered : names.toList.Pairwise (· < ·)) {i j : Fin names.size} (lt : i < j) :
    names[i] < names[j] :=
  List.pairwise_iff_getElem.1 ordered i j (by simp) (by simp) lt

theorem names_inj (ordered : names.toList.Pairwise (· < ·)) {i j : Fin names.size}
    (same : names[i] = names[j]) : i = j := by
  rcases Nat.lt_trichotomy i j with before | eq | after
  · exact absurd (same ▸ names_lt ordered before) (String.lt_irrefl _)
  · exact Fin.ext eq
  · exact absurd (same ▸ names_lt ordered after) (String.lt_irrefl _)

theorem lt_of_names_lt (ordered : names.toList.Pairwise (· < ·)) {i j : Fin names.size}
    (lt : names[i] < names[j]) : i < j := by
  rcases Nat.lt_trichotomy i j with before | eq | after
  · exact before
  · cases Fin.ext eq
    exact absurd lt (String.lt_irrefl _)
  · exact absurd (String.lt_trans lt (names_lt ordered after)) (String.lt_irrefl _)

theorem rankWithin_complete (ordered : names.toList.Pairwise (· < ·)) {lo hi : Nat}
    {within : hi ≤ names.size} {v : Fin names.size} (lower : lo ≤ v) (upper : v < hi) :
    rankWithin names names[v] lo hi within = some v := by
  induction lo, hi, within using rankWithin.induct names names[v] with
  | case1 lo hi within nonempty mid inside same =>
    rw [rankWithin, dif_pos nonempty, if_pos same]
    exact congrArg some (names_inj ordered (i := ⟨mid, inside⟩) same.symm)
  | case2 lo hi within nonempty mid inside differs below ih =>
    rw [rankWithin, dif_pos nonempty, if_neg differs, if_pos below]
    exact ih lower (lt_of_names_lt ordered (j := ⟨mid, inside⟩) below)
  | case3 lo hi within nonempty mid inside differs above ih =>
    rw [rankWithin, dif_pos nonempty, if_neg differs, if_neg above]
    rcases Nat.lt_trichotomy v mid with before | eq | after
    · exact absurd (names_lt ordered (j := ⟨mid, inside⟩) before) above
    · exact absurd (congrArg (names[·]) (Fin.ext eq : v = ⟨mid, inside⟩)) differs
    · exact ih after upper
  | case4 lo hi within empty => omega

theorem rank_eq_some_iff (ordered : names.toList.Pairwise (· < ·)) {v : Fin names.size} :
    rank? names name = some v ↔ names[v] = name := by
  constructor
  · exact rankWithin_sound
  · rintro rfl
    exact rankWithin_complete ordered (Nat.zero_le _) v.isLt

theorem rank_eq_none_iff (ordered : names.toList.Pairwise (· < ·)) :
    rank? names name = none ↔ name ∉ names := by
  constructor
  · intro missing member
    obtain ⟨v, inside, same⟩ := Array.mem_iff_getElem.1 member
    have found := (rank_eq_some_iff ordered (v := ⟨v, inside⟩)).2 same
    rw [missing] at found
    cases found
  · intro absent
    cases found : rank? names name with
    | none => rfl
    | some v => exact absurd ((rank_eq_some_iff ordered).1 found ▸ Array.getElem_mem _) absent

end NameTable

variable {names : Array String} {clause : List NamedLiteral} {clauses : List (List NamedLiteral)}

theorem intern_total (ordered : names.toList.Pairwise (· < ·)) {l : NamedLiteral}
    (known : l.name ∈ names) : ∃ m, l.intern names = .ok m := by
  unfold NamedLiteral.intern
  cases found : NameTable.rank? names l.name with
  | some v => exact ⟨_, rfl⟩
  | none => exact absurd known ((NameTable.rank_eq_none_iff ordered).1 found)

theorem namedIn_of_intern (ordered : names.toList.Pairwise (· < ·)) {l : NamedLiteral}
    {m : { m : Literal // m.var < names.size }} (run : l.intern names = .ok m) :
    m.val.namedIn names = l := by
  unfold NamedLiteral.intern at run
  cases found : NameTable.rank? names l.name with
  | none =>
    rw [found] at run
    cases run
  | some v =>
    rw [found] at run
    cases run
    have same := (NameTable.rank_eq_some_iff ordered).1 found
    rw [Literal.namedIn, Array.getD_eq_getD_getElem?, Array.getElem?_eq_getElem v.isLt]
    exact congrArg (NamedLiteral.mk · l.positive) same

theorem Clause.ofLiterals_total {literals : List Literal}
    (distinct : (literals.map Literal.var).Nodup) : ∃ c, Clause.ofLiterals literals = .ok c :=
  ⟨_, dif_pos distinct⟩

theorem namedIn_of_internClause (ordered : names.toList.Pairwise (· < ·))
    {c : { c : Clause // ∀ l ∈ c.literals, l.var < names.size }}
    (run : internClause names clause = .ok c) : c.val.literals.map (·.namedIn names) = clause := by
  unfold internClause at run
  obtain ⟨literals, interned, run⟩ := bind_eq_ok.1 run
  have inverse : literals.map (·.val.namedIn names) = clause :=
    mapM_inverse (fun _ _ => namedIn_of_intern ordered) interned
  obtain ⟨⟨built, same⟩, -, run⟩ := bind_eq_ok.1 run
  cases run
  change built.literals.map (·.namedIn names) = clause
  rw [same, List.unattach, List.map_map]
  exact inverse

/-- Different names have different ranks, so a clause that repeats no name repeats no variable. -/
theorem internClause_total (ordered : names.toList.Pairwise (· < ·))
    (known : ∀ l ∈ clause, l.name ∈ names) (distinct : (clause.map NamedLiteral.name).Nodup) :
    ∃ c, internClause names clause = .ok c := by
  obtain ⟨literals, interned⟩ : ∃ literals, clause.mapM (·.intern names) = .ok literals :=
    mapM_total fun l member => intern_total ordered (known l member)
  have inverse : literals.map (·.val.namedIn names) = clause :=
    mapM_inverse (fun _ _ => namedIn_of_intern ordered) interned
  have nodup : (literals.unattach.map Literal.var).Nodup := by
    rw [← inverse, List.map_map] at distinct
    refine List.Nodup.of_map (names.getD · "") ?_
    rw [List.unattach, List.map_map, List.map_map]
    exact distinct
  obtain ⟨c, built⟩ := Clause.ofLiterals_total nodup
  rw [internClause, interned, ok_bind, built]
  exact ⟨_, rfl⟩

theorem ofNamed_names {F : Formula} (run : Formula.ofNamed clauses = .ok F) :
    F.names = (NameTable.collect (clauses.flatten.map NamedLiteral.name)).toArray := by
  unfold Formula.ofNamed at run
  obtain ⟨interned, -, run⟩ := bind_eq_ok.1 run
  cases run
  rfl

theorem ofNamed_namedClauses {F : Formula} (run : Formula.ofNamed clauses = .ok F) :
    F.namedClauses = clauses := by
  unfold Formula.ofNamed at run
  obtain ⟨interned, steps, run⟩ := bind_eq_ok.1 run
  cases run
  change interned.unattach.map (fun c => c.literals.map (·.namedIn
    (NameTable.collect (clauses.flatten.map NamedLiteral.name)).toArray)) = clauses
  rw [List.unattach, List.map_map]
  exact mapM_inverse (fun _ _ => namedIn_of_internClause (NameTable.collect_pairwise_lt _)) steps

def DistinctNames (clauses : List (List NamedLiteral)) : Prop :=
  ∀ clause ∈ clauses, (clause.map NamedLiteral.name).Nodup

instance : Decidable (DistinctNames clauses) :=
  inferInstanceAs (Decidable (∀ clause ∈ clauses, _))

theorem known_of_mem (member : clause ∈ clauses) : ∀ l ∈ clause,
    l.name ∈ (NameTable.collect (clauses.flatten.map NamedLiteral.name)).toArray := by
  intro l inside
  rw [List.mem_toArray, NameTable.mem_collect]
  exact List.mem_map_of_mem (List.mem_flatten_of_mem member inside)

theorem ofNamed_total (distinct : DistinctNames clauses) :
    ∃ F, Formula.ofNamed clauses = .ok F := by
  obtain ⟨interned, steps⟩ : ∃ interned, clauses.mapM (internClause
      (NameTable.collect (clauses.flatten.map NamedLiteral.name)).toArray) = .ok interned :=
    mapM_total fun clause member => internClause_total (NameTable.collect_pairwise_lt _)
      (known_of_mem member) (distinct clause member)
  rw [Formula.ofNamed, steps, ok_bind]
  exact ⟨_, rfl⟩

theorem named_of_lt {F : Formula} {l : Literal} (inside : l.var < F.names.size) :
    F.named l = ⟨F.names[l.var], l.positive⟩ := by
  rw [Formula.named, Literal.namedIn, Array.getD_eq_getD_getElem?, Array.getElem?_eq_getElem inside,
    Option.getD_some]

theorem names_nodup {F : Formula} {literals : List Literal}
    (inside : ∀ l ∈ literals, l.var < F.names.size)
    (distinct : (literals.map Literal.var).Nodup) :
    ((literals.map F.named).map NamedLiteral.name).Nodup := by
  rw [List.map_map]
  refine List.Nodup.map_on ?_ distinct.of_map
  intro k first l second same
  simp only [Function.comp, named_of_lt (inside k first), named_of_lt (inside l second)] at same
  have var := NameTable.names_inj F.ordered (i := ⟨k.var, inside k first⟩)
    (j := ⟨l.var, inside l second⟩) same
  exact List.inj_on_of_nodup_map distinct first second (Fin.mk.inj var)

theorem mem_names_of_ofNamed {F : Formula} {name : String}
    (run : Formula.ofNamed clauses = .ok F) :
    name ∈ F.names ↔ ∃ clause ∈ clauses, ∃ l ∈ clause, l.name = name := by
  rw [ofNamed_names run, List.mem_toArray, NameTable.mem_collect]
  simp only [List.mem_map, List.mem_flatten]
  constructor
  · rintro ⟨l, ⟨clause, among, inside⟩, same⟩
    exact ⟨clause, among, l, inside, same⟩
  · rintro ⟨clause, among, l, inside, same⟩
    exact ⟨l, ⟨clause, among, inside⟩, same⟩

end ClausalSearch
