import ClausalSearch.Proofs.Names

/-!
Blocks of a batch. What a line says depends on its tokens only, and so does what a block says. A
text that has the tokens of a block, line by line, is one block and is read as the same instance,
whatever stands before and after the block where it comes from.
-/
namespace ClausalSearch.NamedFormat

variable {F : Formula} {text alone : List Char} {clause : List NamedLiteral}
  {clauses : List (List NamedLiteral)} {block lines : List (List Char × Nat)}
  {formulas : List Formula}

theorem readToken_eq_ok_iff (line : List Char) (number : Nat) (token : List Char)
    {after : List NamedLiteral} :
    readToken line number clause token = .ok after ↔ readToken [] 0 clause token = .ok after := by
  unfold readToken
  split
  · unfold addLiteral
    split
    · rfl
    · split
      · rfl
      · simp
  · simp

def Reads (tokens : List (List Char)) (clause : List NamedLiteral) : Prop :=
  tokens.foldlM (readToken [] 0) [] = .ok clause

theorem readClause_eq_ok_iff (line : List Char) (number : Nat) :
    readClause line number = .ok clause ↔ Reads (Text.tokens line) clause :=
  foldlM_eq_ok_congr fun _ token _ => readToken_eq_ok_iff line number token

def lineTokens (lines : List (List Char × Nat)) : List (List (List Char)) :=
  lines.map fun line => Text.tokens line.1

theorem readClauses_eq_ok_iff :
    readClauses lines = .ok clauses ↔ List.Forall₂ Reads (lineTokens lines) clauses := by
  rw [readClauses, mapM_eq_ok_iff, lineTokens, List.forall₂_map_left_iff]
  simp only [readClause_eq_ok_iff]

theorem readClauses_congr (same : lineTokens lines = lineTokens block) :
    readClauses lines = .ok clauses ↔ readClauses block = .ok clauses := by
  rw [readClauses_eq_ok_iff, same, readClauses_eq_ok_iff]

/-- A text whose lines have the tokens of the block's lines. -/
def Retells (text : List Char) (block : List (List Char × Nat)) : Prop :=
  (Text.lines text).map Text.tokens = lineTokens block

instance : Decidable (Retells text block) := inferInstanceAs (Decidable (_ = _))

def blockText (block : List (List Char × Nat)) : List Char :=
  ['\n'].intercalate (block.map Prod.fst)

/-- Lines that are not blank, between blank lines or the ends of the text. -/
structure MaximalRun (lines block : List (List Char × Nat)) : Prop where
  filled : block ≠ []
  solid : ∀ line ∈ block, isSeparator line = false
  around : ∃ before after, lines = before ++ block ++ after ∧
    (∀ line ∈ before.getLast?, isSeparator line = true) ∧
    ∀ line ∈ after.head?, isSeparator line = true

theorem maximalRun_of_mem_blocks (member : block ∈ blocks text) :
    MaximalRun (Text.numberedLines text) block := by
  obtain ⟨piece, filled⟩ := List.mem_filter.1 member
  exact ⟨by simpa using filled, Text.not_of_mem_splitOnP piece,
    Text.around_of_mem_splitOnP [] (List.forall_mem_nil _) piece⟩

theorem blocks_flatten (text : List Char) :
    (blocks text).flatten = (Text.numberedLines text).filter (!isSeparator ·) :=
  segments_flatten (Text.numberedLines text)

theorem tokens_of_mem_blocks (member : block ∈ blocks text) :
    ∀ tokens ∈ lineTokens block, tokens ≠ [] := by
  intro tokens listed
  obtain ⟨line, inside, rfl⟩ := List.mem_map.1 listed
  have solid := (maximalRun_of_mem_blocks member).solid line inside
  rw [isSeparator, ← Bool.not_eq_true, ← Text.tokens_eq_nil_iff] at solid
  exact solid

theorem blockText_retells (member : block ∈ blocks text) : Retells (blockText block) block := by
  have nonempty : block.map Prod.fst ≠ [] :=
    List.map_eq_nil_iff.not.2 (maximalRun_of_mem_blocks member).filled
  have single : ∀ part ∈ block.map Prod.fst, '\n' ∉ part := by
    intro part listed
    obtain ⟨line, inside, rfl⟩ := List.mem_map.1 listed
    have numbered : line ∈ (Text.lines text).zipIdx 1 := by
      obtain ⟨before, after, same, -⟩ := (maximalRun_of_mem_blocks member).around
      rw [Text.numberedLines] at same
      simp [same, inside]
    exact Text.not_mem_of_mem_lines (List.fst_mem_of_mem_zipIdx numbered)
  have filled : ∀ part ∈ block.map Prod.fst, part ≠ [] := by
    rintro part listed rfl
    obtain ⟨line, inside, empty⟩ := List.mem_map.1 listed
    apply tokens_of_mem_blocks member _ (List.mem_map_of_mem inside)
    rw [empty]
    rfl
  rw [Retells, blockText, Text.tokens_of_joined nonempty single filled, lineTokens, List.map_map]
  rfl

theorem lineTokens_numberedLines (text : List Char) :
    lineTokens (Text.numberedLines text) = (Text.lines text).map Text.tokens := by
  change (Text.numberedLines text).map (Text.tokens ∘ Prod.fst) = _
  rw [← List.map_map, Text.numberedLines, List.zipIdx_map_fst]

theorem blocks_of_retells (member : block ∈ blocks text) (retells : Retells alone block) :
    blocks alone = [Text.numberedLines alone] := by
  have same : lineTokens (Text.numberedLines alone) = lineTokens block := by
    rw [lineTokens_numberedLines, retells]
  have solid : ∀ line ∈ Text.numberedLines alone, isSeparator line = false := by
    intro line listed
    have tokens : Text.tokens line.1 ∈ lineTokens block := same ▸ List.mem_map_of_mem listed
    rw [isSeparator, ← Bool.not_eq_true, ← Text.tokens_eq_nil_iff]
    exact tokens_of_mem_blocks member _ tokens
  have filled : Text.numberedLines alone ≠ [] := by
    intro empty
    rw [empty] at same
    exact (maximalRun_of_mem_blocks member).filled (List.map_eq_nil_iff.1 same.symm)
  rw [blocks, segments_of_solid solid]
  simp [filled]

theorem readBatch_at (read : readBatch text = .ok formulas) {k : Nat}
    (listed : (blocks text)[k]? = some block) :
    ∃ clauses F, readClauses block = .ok clauses ∧ intern clauses = .ok F ∧
      formulas[k]? = some F := by
  rw [readBatch_eq] at read
  obtain ⟨instances, steps, rest⟩ := bind_eq_ok.1 read
  split at rest
  · cases rest
  · obtain ⟨clauses, found, first⟩ := mapM_at steps listed
    obtain ⟨F, placed, second⟩ := mapM_at rest found
    exact ⟨clauses, F, first, second, placed⟩

theorem readBatch_length (read : readBatch text = .ok formulas) :
    formulas.length = (blocks text).length := by
  rw [readBatch_eq] at read
  obtain ⟨instances, steps, rest⟩ := bind_eq_ok.1 read
  split at rest
  · cases rest
  · rw [mapM_length rest, mapM_length steps]

theorem readBatch_of_retells (read : readBatch text = .ok formulas) {k : Nat}
    (listed : (blocks text)[k]? = some block) (placed : formulas[k]? = some F)
    (retells : Retells alone block) : readBatch alone = .ok [F] := by
  obtain ⟨clauses, same, first, second, found⟩ := readBatch_at read listed
  rw [placed] at found
  cases found
  have member := List.mem_of_getElem? listed
  have again : readClauses (Text.numberedLines alone) = .ok clauses := by
    rw [readClauses_congr ((lineTokens_numberedLines alone).trans retells)]
    exact first
  have instances : (blocks alone).mapM readClauses = .ok [clauses] := by
    rw [blocks_of_retells member retells, mapM_eq_ok_iff]
    exact .cons again .nil
  rw [readBatch_eq, instances, ok_bind]
  exact mapM_eq_ok_iff.2 (.cons second .nil)

end ClausalSearch.NamedFormat
