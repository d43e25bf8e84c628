import ClausalSearch.Proofs.Blocks

/-!
A batch beside the same text read as one instance. Both readers go through the lines of the blocks,
so they fail with the same error, and the clauses of the formulas of the batch, one formula after
the other, are the clauses of the instance. The blocks are the maximal runs of lines that are not
blank, and each of them alone is the formula that it is in the batch.
-/
namespace ClausalSearch.NamedFormat

variable {F : Formula} {text : List Char} {clauses : List (List NamedLiteral)}
  {instances : List (List (List NamedLiteral))} {block : List (List Char × Nat)}
  {formulas : List Formula}

theorem mem_blocks_iff : block ∈ blocks text ↔ MaximalRun (Text.numberedLines text) block := by
  refine ⟨maximalRun_of_mem_blocks, fun run => ?_⟩
  obtain ⟨before, after, same, low, high⟩ := run.around
  refine List.mem_filter.2 ⟨?_, by simpa using run.filled⟩
  rw [same]
  exact Text.mem_splitOnP_of_around run.solid low high

section Instances

variable (read : (blocks text).mapM readClauses = .ok instances)
include read

theorem instances_distinct : ∀ clauses ∈ instances, DistinctNames clauses :=
  of_ends (ends_mapM fun block _ => readClauses_ends block) read

theorem instances_printable : ∀ clauses ∈ instances, PrintableClauses clauses :=
  of_ends (ends_mapM fun _ member => block_printable member) read

/-- No block is without clauses, so the instance is empty only if the batch is. -/
theorem flatten_isEmpty : instances.flatten.isEmpty = instances.isEmpty := by
  rw [Bool.eq_iff_iff, List.isEmpty_iff, List.isEmpty_iff, List.flatten_eq_nil_iff]
  constructor
  · intro empty
    refine List.eq_nil_iff_forall_not_mem.2 fun clauses member => ?_
    exact (instances_printable read clauses member).nonempty (empty clauses member)
  · rintro rfl
    exact List.forall_mem_nil _

end Instances

theorem readInstance_eq (text : List Char) : readInstance text = (do
    let instances ← (blocks text).mapM readClauses
    if instances.isEmpty then throw .emptyFormula
    intern instances.flatten) := by
  rw [readInstance, readClauses_segments, ← blocks]
  cases read : (blocks text).mapM readClauses with
  | error e => rfl
  | ok instances =>
    rw [ok_map, ok_bind, ok_bind, flatten_isEmpty read]

theorem readInstance_of_single (read : readBatch text = .ok [F]) : readInstance text = .ok F := by
  rw [readBatch_eq] at read
  obtain ⟨instances, steps, rest⟩ := bind_eq_ok.1 read
  rw [readInstance_eq, steps, ok_bind]
  split at rest
  · cases rest
  · rename_i filled
    obtain ⟨clauses, last, run, none, rfl⟩ := List.forall₂_cons_right_iff.1 (mapM_eq_ok_iff.1 rest)
    obtain rfl := List.forall₂_nil_right_iff.1 none
    rw [if_neg filled]
    simpa using run

theorem readInstance_block (read : readBatch text = .ok formulas) :
    List.Forall₂ (fun block G => readInstance (blockText block) = .ok G)
      (blocks text) formulas := by
  refine List.forall₂_iff_get.2 ⟨(readBatch_length read).symm, fun k listed placed => ?_⟩
  have member := List.get_mem (blocks text) ⟨k, listed⟩
  apply readInstance_of_single
  exact readBatch_of_retells read (List.getElem?_eq_getElem listed)
    (List.getElem?_eq_getElem placed) (blockText_retells member)

theorem readings_agree (text : List Char) :
    (∃ e : FormatError, readInstance text = .error e ∧ readBatch text = .error e) ∨
      ∃ F formulas, readInstance text = .ok F ∧ readBatch text = .ok formulas ∧
        F.namedClauses = formulas.flatMap Formula.namedClauses := by
  rw [readInstance_eq, readBatch_eq]
  cases read : (blocks text).mapM readClauses with
  | error e => exact .inl ⟨e, rfl, rfl⟩
  | ok instances =>
    have distinct := instances_distinct read
    simp only [ok_bind]
    split
    · exact .inl ⟨.emptyFormula, rfl, rfl⟩
    · obtain ⟨formulas, parts⟩ : ∃ formulas, instances.mapM intern = .ok formulas :=
        mapM_total fun clauses member => intern_total (distinct clauses member)
      obtain ⟨F, whole⟩ : ∃ F, intern instances.flatten = .ok F := by
        refine intern_total fun clause member => ?_
        obtain ⟨clauses, among, inside⟩ := List.mem_flatten.1 member
        exact distinct clauses among clause inside
      have same : formulas.map Formula.namedClauses = instances :=
        mapM_inverse (fun _ _ => namedClauses_of_intern) parts
      refine .inr ⟨F, formulas, whole, parts, ?_⟩
      rw [namedClauses_of_intern whole, ← same, List.flatMap_def]

theorem batch_agrees_with_instance (text : List Char) :
    ((∃ e : FormatError, e.OfText ∧ readInstance text = .error e ∧ readBatch text = .error e) ∨
      ∃ F formulas, readInstance text = .ok F ∧ readBatch text = .ok formulas ∧
        F.namedClauses = formulas.flatMap Formula.namedClauses ∧
        List.Forall₂ (fun block G => readInstance (blockText block) = .ok G)
          (blocks text) formulas) ∧
    (∀ block, block ∈ blocks text ↔ MaximalRun (Text.numberedLines text) block) ∧
    (blocks text).flatten = (Text.numberedLines text).filter (!isSeparator ·) := by
  refine ⟨?_, fun block => mem_blocks_iff, blocks_flatten text⟩
  rcases readings_agree text with ⟨e, single, batch⟩ | ⟨F, formulas, single, batch, clauses⟩
  · exact .inl ⟨e, error_of_ends (readInstance_ends text) single, single, batch⟩
  · exact .inr ⟨F, formulas, single, batch, clauses, readInstance_block batch⟩

end ClausalSearch.NamedFormat
