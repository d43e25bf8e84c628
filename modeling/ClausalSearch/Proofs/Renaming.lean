import ClausalSearch.Proofs.EqualRuns
import ClausalSearch.Proofs.ExactInterning

/-!
Only the order of the names matters. A map on names that increases on those that occur commutes
with their collection into a table, so the clauses over ranks stay what they are and the search
runs alike. What is printed shows the images of the names.
-/
namespace ClausalSearch

variable {F G : Formula} {r : String → String} {clauses : List (List NamedLiteral)}
  {names : List String} {cs ds : List Clause} {l : Literal}

def NamedLiteral.rename (r : String → String) (l : NamedLiteral) : NamedLiteral :=
  { l with name := r l.name }

def renameAll (r : String → String) (clauses : List (List NamedLiteral)) :
    List (List NamedLiteral) :=
  clauses.map fun clause => clause.map (·.rename r)

def IncreasesOn (r : String → String) (names : List String) : Prop :=
  ∀ a ∈ names, ∀ b ∈ names, a < b → r a < r b

instance : Decidable (IncreasesOn r names) :=
  inferInstanceAs (Decidable (∀ a ∈ names, ∀ b ∈ names, a < b → r a < r b))

def occurringNames (clauses : List (List NamedLiteral)) : List String :=
  clauses.flatten.map NamedLiteral.name

theorem occurringNames_renameAll :
    occurringNames (renameAll r clauses) = (occurringNames clauses).map r := by
  unfold occurringNames renameAll
  rw [← List.map_flatten, List.map_map, List.map_map]
  rfl

theorem injOn_of_increases (increases : IncreasesOn r names) {a b : String} (first : a ∈ names)
    (second : b ∈ names) (same : r a = r b) : a = b := by
  have apart {c d : String} (first : c ∈ names) (second : d ∈ names) (same : r c = r d) :
      c ≤ d := by
    refine String.not_lt.1 fun above => ?_
    have lt := increases d second c first above
    rw [same] at lt
    exact String.lt_irrefl _ lt
  exact String.le_antisymm (apart first second same) (apart second first same.symm)

/-- The table of the images is the image of the table: both are ordered and have the same names. -/
theorem collect_map (increases : IncreasesOn r names) :
    NameTable.collect (names.map r) = (NameTable.collect names).map r := by
  have ordered : ((NameTable.collect names).map r).Pairwise (· < ·) := by
    rw [List.pairwise_map]
    refine (NameTable.collect_pairwise_lt names).imp_of_mem fun first second below => ?_
    exact increases _ (NameTable.mem_collect.1 first) _ (NameTable.mem_collect.1 second) below
  refine (NameTable.collect_pairwise_lt _).eq_of_mem_iff ordered fun name => ?_
  simp only [NameTable.mem_collect, List.mem_map]

theorem distinctNames_renameAll (distinct : DistinctNames clauses)
    (increases : IncreasesOn r (occurringNames clauses)) :
    DistinctNames (renameAll r clauses) := by
  intro image listed
  obtain ⟨clause, among, same⟩ := List.mem_map.1 listed
  subst same
  have images : (clause.map (·.rename r)).map NamedLiteral.name =
      (clause.map NamedLiteral.name).map r := by
    rw [List.map_map, List.map_map]
    rfl
  have occurs (name : String) (inside : name ∈ clause.map NamedLiteral.name) :
      name ∈ occurringNames clauses := by
    obtain ⟨l, member, same⟩ := List.mem_map.1 inside
    exact List.mem_map.2 ⟨l, List.mem_flatten_of_mem among member, same⟩
  rw [images]
  refine (distinct clause among).map_on fun a first b second same => ?_
  exact injOn_of_increases increases (occurs a first) (occurs b second) same

structure Renames (r : String → String) (F G : Formula) : Prop where
  names : G.names = F.names.map r
  clauses : G.clauses = F.clauses

theorem numVariables_of_names (names : G.names = F.names.map r) :
    G.numVariables = F.numVariables := by
  rw [Formula.numVariables, names, Array.size_map, Formula.numVariables]

theorem named_of_names (names : G.names = F.names.map r) (inside : l.var < F.numVariables) :
    G.named l = (F.named l).rename r := by
  have within : l.var < G.numVariables := by rwa [numVariables_of_names names]
  rw [named_of_lt within, named_of_lt inside]
  simp only [names, Array.getElem_map]
  rfl

theorem renames_of_ofNamed (increases : IncreasesOn r (occurringNames clauses))
    (built : Formula.ofNamed clauses = .ok F)
    (renamed : Formula.ofNamed (renameAll r clauses) = .ok G) : Renames r F G := by
  have names : G.names = F.names.map r := by
    rw [ofNamed_names renamed, ofNamed_names built, List.map_toArray, ← occurringNames,
      ← occurringNames, occurringNames_renameAll, collect_map increases]
  refine ⟨names, clauses_eq_of_named (F := G) G.covered ?_ ?_⟩
  · rw [numVariables_of_names names]
    exact F.covered
  · change G.namedClauses = _
    rw [ofNamed_namedClauses renamed, ← ofNamed_namedClauses built]
    unfold renameAll Formula.namedClauses
    rw [List.map_map]
    refine List.map_congr_left fun c member => ?_
    rw [Function.comp, List.map_map]
    refine List.map_congr_left fun l within => ?_
    exact (named_of_names names (F.covered c member l within)).symm

theorem renamed_run_alike (distinct : DistinctNames clauses)
    (increases : IncreasesOn r (occurringNames clauses)) :
    ∃ F G run other, Formula.ofNamed clauses = .ok F ∧
      Formula.ofNamed (renameAll r clauses) = .ok G ∧ Renames r F G ∧
      solve F = .ok run ∧ solve G = .ok other ∧
      other.isSatisfiable = run.isSatisfiable ∧
      other.model.map Model.trail = run.model.map Model.trail ∧ other.stats = run.stats ∧
      run.line = run.lineAs F.named ∧
      other.line = run.lineAs (fun l => (F.named l).rename r) ∧
      run.records F = run.recordsAs F.named ∧
      other.records G = run.recordsAs fun l => (F.named l).rename r := by
  obtain ⟨F, built⟩ := ofNamed_total distinct
  obtain ⟨G, renamed⟩ := ofNamed_total (distinctNames_renameAll distinct increases)
  have renames := renames_of_ofNamed increases built renamed
  have agree : Agree F.clauses G.clauses := renames.clauses ▸ agree_refl F.clauses
  obtain ⟨run, other, solved, otherSolved, alike⟩ :=
    run_alike (numVariables_of_names renames.names) agree
  have names (l : Literal) : l.var < F.numVariables → G.named l = (F.named l).rename r :=
    named_of_names renames.names
  refine ⟨F, G, run, other, built, renamed, renames, solved, otherSolved,
    alike_isSatisfiable alike, alike_trail alike, alike.stats, line_eq solved, ?_,
    records_eq F run, ?_⟩
  · rw [line_eq otherSolved, lineAs_of_alike alike, lineAs_congr solved names]
  · rw [records_eq, recordsAs_of_alike alike, recordsAs_congr solved names]

/-- Names of which one begins another and their images, two of which are out of order as numbers. -/
def prefixedImage : String → String
  | "a" => "10"
  | "ab" => "9"
  | "b" => "é"
  | other => other

def prefixedClauses : List (List NamedLiteral) :=
  [[⟨"b", true⟩, ⟨"ab", false⟩], [⟨"ab", true⟩, ⟨"a", true⟩], [⟨"a", false⟩, ⟨"b", false⟩]]

def prefixed : Formula where
  names := #["a", "ab", "b"]
  clauses := [⟨[⟨2, true⟩, ⟨1, false⟩], by decide⟩, ⟨[⟨1, true⟩, ⟨0, true⟩], by decide⟩,
    ⟨[⟨0, false⟩, ⟨2, false⟩], by decide⟩]
  ordered := by decide
  covered := by decide

def prefixedRenamed : Formula where
  names := #["10", "9", "é"]
  clauses := prefixed.clauses
  ordered := by decide
  covered := prefixed.covered

theorem prefixed_renamed_run_alike : DistinctNames prefixedClauses ∧
    IncreasesOn prefixedImage (occurringNames prefixedClauses) ∧
    Formula.ofNamed prefixedClauses = .ok prefixed ∧
    Formula.ofNamed (renameAll prefixedImage prefixedClauses) = .ok prefixedRenamed ∧
    ∃ run other, solve prefixed = .ok run ∧ solve prefixedRenamed = .ok other ∧
      run.line = "a -ab -b" ∧ other.line = "10 -9 -é" ∧
      other.line = run.lineAs (fun l => (prefixed.named l).rename prefixedImage) ∧
      run.stats = ⟨2, 0, 1, 0⟩ ∧ other.stats = run.stats := by
  have distinct : DistinctNames prefixedClauses := by decide
  have increases : IncreasesOn prefixedImage (occurringNames prefixedClauses) := by decide
  have explicit : Formula.ofNamed prefixedClauses = .ok prefixed :=
    ofNamed_eq_ok_iff.2 ⟨by decide, by decide⟩
  have explicitRenamed :
      Formula.ofNamed (renameAll prefixedImage prefixedClauses) = .ok prefixedRenamed :=
    ofNamed_eq_ok_iff.2 ⟨by decide, by decide⟩
  obtain ⟨F, G, run, other, built, renamed, -, solved, otherSolved, -, -, stats, -, image, -⟩ :=
    renamed_run_alike distinct increases
  obtain rfl := Except.ok.inj (explicit.symm.trans built)
  obtain rfl := Except.ok.inj (explicitRenamed.symm.trans renamed)
  have computed : (solve prefixed).map (fun run => (run.line, run.stats)) =
      .ok ("a -ab -b", ⟨2, 0, 1, 0⟩) := by decide +kernel
  have otherComputed : (solve prefixedRenamed).map Run.line = .ok "10 -9 -é" := by decide +kernel
  have outcome := eq_of_map_eq_ok computed solved
  obtain ⟨line, counters⟩ := Prod.mk.inj outcome
  exact ⟨distinct, increases, built, renamed, run, other, solved, otherSolved, line,
    eq_of_map_eq_ok otherComputed otherSolved, image, counters, stats⟩

end ClausalSearch
