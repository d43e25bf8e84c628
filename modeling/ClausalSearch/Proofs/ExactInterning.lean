import ClausalSearch.Proofs.Interning
import Mathlib.Data.List.Sort

/-!
Interning neither loses nor adds anything. Literals keep their places and signs, their numbers are
the places of their names in the ordered table, and a name is found at its own number alone. So a
formula is interned from its own clauses by name, and from no others. Clauses that repeat a name are
rejected.
-/
namespace ClausalSearch

variable {F : Formula} {names : Array String} {clause : List NamedLiteral}
  {clauses : List (List NamedLiteral)} {cs ds : List Clause} {name : String} {l : Literal} {v : Nat}

structure Formula.Denotes (F : Formula) (l : Literal) (named : NamedLiteral) : Prop where
  inside : l.var < F.numVariables
  name : F.name l.var = .ok named.name
  sign : l.positive = named.positive

theorem name_eq_ok_iff : F.name v = .ok name ↔ F.names[v]? = some name := by
  unfold Formula.name
  cases F.names[v]? <;> simp

theorem denotes_named (inside : l.var < F.numVariables) :
    F.Denotes l (F.named l) := by
  have listed : F.names[l.var]? = some F.names[l.var] := Array.getElem?_eq_getElem inside
  rw [named_of_lt inside]
  exact ⟨inside, name_eq_ok_iff.2 listed, rfl⟩

theorem clauses_denote (F : Formula) :
    List.Forall₂ (fun c clause => List.Forall₂ F.Denotes c.literals clause)
      F.clauses F.namedClauses := by
  unfold Formula.namedClauses
  rw [List.forall₂_map_right_iff, List.forall₂_same]
  intro c member
  rw [List.forall₂_map_right_iff, List.forall₂_same]
  intro l inside
  exact denotes_named (F.covered c member l inside)

theorem rank_eq_some_iff_name :
    F.rank? name = some v ↔ v < F.numVariables ∧ F.name v = .ok name := by
  unfold Formula.rank?
  rw [Option.map_eq_some_iff, name_eq_ok_iff]
  constructor
  · intro found
    obtain ⟨rank, ranked, same⟩ := found
    subst same
    have listed := (NameTable.rank_eq_some_iff F.ordered).1 ranked
    exact ⟨rank.isLt, Array.getElem?_eq_some_iff.2 ⟨rank.isLt, listed⟩⟩
  · intro listed
    obtain ⟨inside, same⟩ := Array.getElem?_eq_some_iff.1 listed.2
    exact ⟨⟨v, inside⟩, (NameTable.rank_eq_some_iff F.ordered).2 same, rfl⟩

theorem rank_eq_none_iff_absent : F.rank? name = none ↔ name ∉ F.names := by
  unfold Formula.rank?
  rw [Option.map_eq_none_iff, NameTable.rank_eq_none_iff F.ordered]

theorem Clause.ofLiterals_ends (literals : List Literal) :
    Ends (fun _ => True) (· = .repeatedVariable) (Clause.ofLiterals literals) := by
  unfold Clause.ofLiterals
  split
  · trivial
  · rfl

theorem internClause_ends (ordered : names.toList.Pairwise (· < ·))
    (known : ∀ l ∈ clause, l.name ∈ names) :
    Ends (fun _ => True) (· = .repeatedVariable) (internClause names clause) := by
  obtain ⟨literals, interned⟩ : ∃ literals, clause.mapM (·.intern names) = .ok literals :=
    mapM_total fun l member => intern_total ordered (known l member)
  unfold internClause
  rw [interned, ok_bind]
  exact ends_bind (Clause.ofLiterals_ends _) fun _ _ => trivial

theorem ofNamed_ends (clauses : List (List NamedLiteral)) :
    Ends (fun _ => True) (· = .repeatedVariable) (Formula.ofNamed clauses) := by
  unfold Formula.ofNamed
  refine ends_bind (ends_mapM (Q := fun _ => True) fun clause member => ?_) fun _ _ => trivial
  exact internClause_ends (NameTable.collect_pairwise_lt _) (known_of_mem member)

theorem distinctNames_namedClauses (F : Formula) : DistinctNames F.namedClauses := by
  intro clause listed
  obtain ⟨c, member, same⟩ := List.mem_map.1 listed
  subst same
  exact names_nodup (F.covered c member) c.distinct

theorem distinctNames_of_ofNamed (run : Formula.ofNamed clauses = .ok F) :
    DistinctNames clauses := by
  rw [← ofNamed_namedClauses run]
  exact distinctNames_namedClauses F

theorem ofNamed_rejects (repeated : ¬ DistinctNames clauses) :
    Formula.ofNamed clauses = .error .repeatedVariable := by
  have ends := ofNamed_ends clauses
  cases run : Formula.ofNamed clauses with
  | ok F => exact absurd (distinctNames_of_ofNamed run) repeated
  | error fault => rw [error_of_ends ends run]

section Inverse

/-- The literal whose name is the other's; a name outside the table counts as the first. -/
def Formula.number (F : Formula) (l : NamedLiteral) : Literal :=
  ⟨(F.rank? l.name).getD 0, l.positive⟩

theorem number_named (inside : l.var < F.numVariables) : F.number (F.named l) = l := by
  have denoted := denotes_named inside
  have ranked := rank_eq_some_iff_name.2 ⟨inside, denoted.name⟩
  rw [Formula.number, ranked, Option.getD_some, ← denoted.sign]

theorem literals_of_named (inside : ∀ c ∈ cs, ∀ l ∈ c.literals, l.var < F.numVariables) :
    (cs.map fun c => c.literals.map F.named).map (·.map F.number) =
      cs.map Clause.literals := by
  rw [List.map_map]
  refine List.map_congr_left fun c member => ?_
  have back : ∀ l ∈ c.literals, (F.number ∘ F.named) l = l :=
    fun l within => number_named (inside c member l within)
  rw [Function.comp, List.map_map, List.map_congr_left back, List.map_id']

theorem clauses_eq_of_named (first : ∀ c ∈ cs, ∀ l ∈ c.literals, l.var < F.numVariables)
    (second : ∀ d ∈ ds, ∀ l ∈ d.literals, l.var < F.numVariables)
    (same : (cs.map fun c => c.literals.map F.named) = ds.map fun d => d.literals.map F.named) :
    cs = ds := by
  have literals : cs.map Clause.literals = ds.map Clause.literals := by
    rw [← literals_of_named first, ← literals_of_named second, same]
  refine List.map_injective_iff.2 (fun c d same => ?_) literals
  cases c
  cases d
  cases same
  rfl

theorem formula_eq {G : Formula} (names : F.names = G.names) (clauses : F.clauses = G.clauses) :
    F = G := by
  cases F
  cases G
  cases names
  cases clauses
  rfl

/-- Interning gives the one formula that is named by the clauses and has no other names. -/
theorem ofNamed_eq_ok_iff : Formula.ofNamed clauses = .ok F ↔ F.namedClauses = clauses ∧
    ∀ name ∈ F.names, ∃ clause ∈ clauses, ∃ l ∈ clause, l.name = name := by
  constructor
  · intro built
    exact ⟨ofNamed_namedClauses built, fun name => (mem_names_of_ofNamed built).1⟩
  · rintro ⟨rfl, used⟩
    obtain ⟨G, built⟩ := ofNamed_total (distinctNames_namedClauses F)
    have occurring (name : String) : name ∈ G.names.toList ↔ name ∈ F.names.toList := by
      rw [Array.mem_toList_iff, Array.mem_toList_iff, mem_names_of_ofNamed built]
      refine ⟨?_, used name⟩
      rintro ⟨clause, listed, l, member, rfl⟩
      obtain ⟨c, among, rfl⟩ := List.mem_map.1 listed
      obtain ⟨k, inside, rfl⟩ := List.mem_map.1 member
      have denoted := denotes_named (F.covered c among k inside)
      exact Array.mem_of_getElem? (name_eq_ok_iff.1 denoted.name)
    have names : G.names = F.names :=
      Array.toList_inj.1 (G.ordered.eq_of_mem_iff F.ordered occurring)
    have named : G.named = F.named := by
      funext l
      rw [Formula.named, names, Formula.named]
    have clauses : G.clauses = F.clauses := by
      refine clauses_eq_of_named (F := F) ?_ F.covered ?_
      · rw [Formula.numVariables, ← names]
        exact G.covered
      · rw [← named]
        exact (ofNamed_namedClauses built).trans (by rw [Formula.namedClauses, named])
    rw [built, formula_eq names clauses]

end Inverse

theorem interned_exactly (clauses : List (List NamedLiteral)) :
    (DistinctNames clauses → ∃ F, Formula.ofNamed clauses = .ok F ∧
      F.names.toList.Pairwise (· < ·) ∧
      (∀ name, name ∈ F.names ↔ ∃ clause ∈ clauses, ∃ l ∈ clause, l.name = name) ∧
      List.Forall₂ (fun c clause => List.Forall₂ F.Denotes c.literals clause) F.clauses clauses ∧
      ∀ name, (∀ v, F.rank? name = some v ↔ v < F.numVariables ∧ F.name v = .ok name) ∧
        (F.rank? name = none ↔ ¬ ∃ clause ∈ clauses, ∃ l ∈ clause, l.name = name)) ∧
    (¬ DistinctNames clauses → Formula.ofNamed clauses = .error .repeatedVariable) := by
  refine ⟨fun distinct => ?_, ofNamed_rejects⟩
  obtain ⟨F, built⟩ := ofNamed_total distinct
  have occurring (name : String) : name ∈ F.names ↔ _ := mem_names_of_ofNamed built
  have denoted := clauses_denote F
  rw [ofNamed_namedClauses built] at denoted
  refine ⟨F, built, F.ordered, occurring, denoted, fun name => ⟨fun v => ?_, ?_⟩⟩
  · exact rank_eq_some_iff_name
  · rw [rank_eq_none_iff_absent, occurring]

/-- Names of which one begins another, the empty one and one outside the basic plane. -/
def nestedClauses : List (List NamedLiteral) :=
  [[⟨"ab", true⟩, ⟨"", false⟩], [], [⟨"𝔸", false⟩, ⟨"a", true⟩, ⟨"ab", false⟩]]

def clashingClauses : List (List NamedLiteral) := [[⟨"a", true⟩], [⟨"b", true⟩, ⟨"b", false⟩]]

theorem nested_interned_and_clashing_rejected :
    (DistinctNames nestedClauses ∧ ∃ F, Formula.ofNamed nestedClauses = .ok F ∧
      (∃ v, v < F.numVariables ∧ F.name v = .ok "𝔸") ∧ F.rank? "b" = none) ∧
    ¬ DistinctNames clashingClauses ∧
      Formula.ofNamed clashingClauses = .error .repeatedVariable := by
  have distinct : DistinctNames nestedClauses := by decide
  have repeated : ¬ DistinctNames clashingClauses := by decide
  obtain ⟨F, built, -, -, -, ranks⟩ := (interned_exactly nestedClauses).1 distinct
  have listed : F.rank? "𝔸" ≠ none := by
    rw [Ne, (ranks "𝔸").2]
    decide
  obtain ⟨v, found⟩ := Option.ne_none_iff_exists'.1 listed
  have absent : F.rank? "b" = none := (ranks "b").2.2 (by decide)
  refine ⟨⟨distinct, F, built, ⟨v, ((ranks "𝔸").1 v).1 found⟩, absent⟩, repeated, ?_⟩
  exact (interned_exactly clashingClauses).2 repeated

end ClausalSearch
