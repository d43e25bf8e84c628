import ClausalSearch.Proofs.BatchAgreement
import ClausalSearch.Proofs.NamedGrammar
import ClausalSearch.Proofs.PrintedModel
import Mathlib

/-!
Written clauses are read back. What a text says depends only on the tokens of its rows, and its
blocks are the runs of rows that have tokens. A written batch has one run for each instance with
one row for each clause, so reading it interns just the clauses that were written. All clauses of
a formula from a text can be written, unless one of them is empty.
-/
namespace ClausalSearch.NamedFormat

variable {F : Formula} {text : List Char} {blanks : String} {clause : List NamedLiteral}
  {clauses : List (List NamedLiteral)} {instances : List (List (List NamedLiteral))}
  {formulas : List Formula}

/-- Clauses whose lines are not blank and show each literal as it is. -/
structure Writable (clauses : List (List NamedLiteral)) : Prop
    extends PrintableClauses clauses where
  filled : ∀ clause ∈ clauses, clause ≠ []
  distinct : DistinctNames clauses

section Rows

def rows (text : List Char) : List (List (List Char)) := (text.splitOn '\n').map Text.tokens

/-- The maximal runs of rows that have tokens. -/
def runs (table : List (List (List Char))) : List (List (List (List Char))) :=
  (table.splitOnP List.isEmpty).filter (!·.isEmpty)

theorem rows_append (front rest : List Char) :
    rows (front ++ '\n' :: rest) = rows front ++ rows rest := by
  rw [rows, List.splitOn_eq_splitOnP, List.splitOnP_append_cons front rest (by rfl),
    List.map_append]
  rfl

theorem rows_ne_nil (text : List Char) : rows text ≠ [] := by
  rw [rows, List.splitOn_eq_splitOnP, Ne, List.map_eq_nil_iff]
  exact List.splitOnP_ne_nil _ text

variable {front gap rest : List (List (List Char))}

theorem runs_append_nil (front rest : List (List (List Char))) :
    runs (front ++ [] :: rest) = runs front ++ runs rest := by
  rw [runs, List.splitOnP_append_cons front rest (by rfl), List.filter_append]
  rfl

theorem runs_gap (empty : ∀ row ∈ gap, row = []) : runs (gap ++ rest) = runs rest := by
  induction gap with
  | nil => rfl
  | cons row gap ih =>
    obtain ⟨rfl, later⟩ := List.forall_mem_cons.1 empty
    rw [List.cons_append, ← List.nil_append ([] :: _), runs_append_nil, ih later]
    rfl

theorem runs_append_gap (filled : gap ≠ []) (empty : ∀ row ∈ gap, row = []) :
    runs (front ++ gap ++ rest) = runs front ++ runs rest := by
  obtain ⟨row, gap, rfl⟩ := List.exists_cons_of_ne_nil filled
  obtain ⟨rfl, later⟩ := List.forall_mem_cons.1 empty
  rw [List.append_assoc, List.cons_append, runs_append_nil, runs_gap later]

theorem runs_solid (filled : front ≠ []) (solid : ∀ row ∈ front, row ≠ []) :
    runs front = [front] := by
  rw [runs, List.splitOnP_eq_singleton (by simpa using solid)]
  simp [filled]

/-- The lines have the tokens of the rows, but an empty last row is no line. -/
theorem runs_lines (text : List Char) :
    runs ((Text.lines text).map Text.tokens) = runs (rows text) := by
  have same : Text.tokens ∘ Text.chomp = Text.tokens := funext Text.tokens_chomp
  rw [rows, List.splitOn_eq_splitOnP, Text.lines, List.map_append, List.map_map, same]
  rcases List.eq_nil_or_concat (text.splitOnP (· == '\n')) with none | ⟨front, last, pieces⟩
  · exact absurd none (List.splitOnP_ne_nil _ text)
  · rw [pieces, List.concat_eq_append, List.dropLast_concat, List.getLast?_concat, List.map_append]
    by_cases empty : last = []
    · have blank : Text.tokens last = [] := empty ▸ rfl
      have dropped := runs_append_nil (front.map Text.tokens) []
      rw [show runs [] = [] from rfl, List.append_nil] at dropped
      rw [List.map_singleton, blank, dropped, empty]
      simp
    · simp [empty]

theorem lineTokens_blocks (text : List Char) : (blocks text).map lineTokens = runs (rows text) := by
  have separators : isSeparator = List.isEmpty ∘ fun line => Text.tokens line.1 := by
    funext line
    rw [Bool.eq_iff_iff, isSeparator, ← Text.tokens_eq_nil_iff, Function.comp, List.isEmpty_iff]
  rw [← runs_lines, ← lineTokens_numberedLines, runs, lineTokens, Text.splitOnP_map, ← separators,
    List.filter_map, blocks, segments]
  congr 2
  funext block
  simp

theorem readBlocks_eq_ok_iff : (blocks text).mapM readClauses = .ok instances ↔
    List.Forall₂ (List.Forall₂ Reads) (runs (rows text)) instances := by
  rw [mapM_eq_ok_iff, ← lineTokens_blocks, List.forall₂_map_left_iff]
  simp only [readClauses_eq_ok_iff]

end Rows

section Written

def shown (clause : List NamedLiteral) : List (List Char) := clause.map (·.text.toList)

theorem reads_shown (readable : ∀ l ∈ clause, Readable l.name)
    (distinct : (clause.map NamedLiteral.name).Nodup) : Reads (shown clause) clause :=
  readTokens_texts readable distinct

theorem rows_instanceText (printable : PrintableClauses clauses) :
    rows (instanceText clauses).toList = clauses.map shown := by
  have single : ∀ line ∈ clauses.map (String.toList ∘ clauseText), '\n' ∉ line := by
    intro line listed
    obtain ⟨clause, member, rfl⟩ := List.mem_map.1 listed
    exact clauseText_single (printable.readable clause member)
  have filled : clauses.map (String.toList ∘ clauseText) ≠ [] :=
    List.map_eq_nil_iff.not.2 printable.nonempty
  have lines : (instanceText clauses).toList.splitOn '\n' =
      clauses.map (String.toList ∘ clauseText) := by
    rw [instanceText, String.toList_intercalate, List.map_map]
    exact List.splitOn_intercalate '\n' single filled
  rw [rows, lines, List.map_map]
  exact List.map_congr_left fun clause member =>
    tokens_clauseText (printable.readable clause member)

theorem runs_instanceText (writable : Writable clauses) :
    runs (rows (instanceText clauses).toList) = [clauses.map shown] := by
  rw [rows_instanceText writable.toPrintableClauses]
  apply runs_solid
  · exact List.map_eq_nil_iff.not.2 writable.nonempty
  · intro row listed
    obtain ⟨clause, member, rfl⟩ := List.mem_map.1 listed
    exact List.map_eq_nil_iff.not.2 (writable.filled clause member)

theorem rows_of_blanks {gap : List Char} (blank : ∀ c ∈ gap, Text.isBlank c = true) :
    ∀ row ∈ rows gap, row = [] := by
  intro row listed
  obtain ⟨line, member, rfl⟩ := List.mem_map.1 listed
  rw [List.splitOn_eq_splitOnP] at member
  obtain ⟨before, after, same, -⟩ := Text.around_of_mem_splitOnP [] (List.forall_mem_nil _) member
  rw [List.nil_append] at same
  rw [Text.tokens_eq_nil_iff, List.all_eq_true]
  exact fun c inside => blank c (by simp [same, inside])

theorem rows_apart {gap : List Char} (front rest : List Char) :
    rows (front ++ ('\n' :: gap ++ ['\n']) ++ rest) = rows front ++ rows gap ++ rows rest := by
  rw [List.append_assoc, List.append_assoc, List.cons_append, rows_append, List.singleton_append,
    rows_append, List.append_assoc]

theorem runs_batchText (blank : ∀ c ∈ blanks.toList, Text.isBlank c = true)
    (writable : ∀ clauses ∈ instances, Writable clauses) :
    runs (rows (batchText blanks instances).toList) = instances.map (List.map shown) := by
  have gap : ("\n" ++ blanks ++ "\n").toList = '\n' :: blanks.toList ++ ['\n'] := by
    rw [String.toList_append, String.toList_append]
    rfl
  rw [batchText, String.toList_intercalate, List.map_map, gap]
  -- one instance more is one run more, as what stands before it ends in an empty row
  induction instances with
  | nil => rfl
  | cons clauses rest ih =>
    obtain ⟨first, later⟩ := List.forall_mem_cons.1 writable
    have head := runs_instanceText first
    cases rest with
    | nil => simpa using head
    | cons next rest =>
      rw [List.map_cons, List.map_cons, List.intercalate_cons_cons, rows_apart,
        runs_append_gap (rows_ne_nil _) (rows_of_blanks blank), ← List.map_cons, ih later]
      exact congrArg (· ++ _) head

theorem readBlocks_batchText (blank : ∀ c ∈ blanks.toList, Text.isBlank c = true)
    (writable : ∀ clauses ∈ instances, Writable clauses) :
    (blocks (batchText blanks instances).toList).mapM readClauses = .ok instances := by
  rw [readBlocks_eq_ok_iff, runs_batchText blank writable, List.forall₂_map_left_iff,
    List.forall₂_same]
  intro clauses among
  rw [List.forall₂_map_left_iff, List.forall₂_same]
  have said := writable clauses among
  exact fun clause member =>
    reads_shown (said.readable clause member) (said.distinct clause member)

theorem readInstance_instanceText (writable : Writable clauses)
    (built : Formula.ofNamed clauses = .ok F) :
    readInstance (instanceText clauses).toList = .ok F := by
  have single : batchText "" [clauses] = instanceText clauses := by simp [batchText]
  have read : (blocks (batchText "" [clauses]).toList).mapM readClauses = .ok [clauses] :=
    readBlocks_batchText (List.forall_mem_nil _) (List.forall_mem_singleton.2 writable)
  rw [readInstance_eq, ← single, read, ok_bind]
  simpa using intern_eq_ok_iff.2 built

theorem readBatch_batchText (filled : instances ≠ [])
    (blank : ∀ c ∈ blanks.toList, Text.isBlank c = true)
    (writable : ∀ clauses ∈ instances, Writable clauses)
    (built : instances.mapM Formula.ofNamed = .ok formulas) :
    readBatch (batchText blanks instances).toList = .ok formulas := by
  have interned : instances.mapM intern = .ok formulas := by
    rw [mapM_eq_ok_iff] at built ⊢
    exact built.imp fun _ _ => intern_eq_ok_iff.2
  rw [readBatch_eq, readBlocks_batchText blank writable, ok_bind]
  simpa [filled] using interned

end Written

section Formulas

theorem writable_namedClauses (built : F.Built) (printable : F.Printable)
    (filled : ∀ c ∈ F.clauses, c.literals ≠ []) :
    Writable F.namedClauses ∧ Formula.ofNamed F.namedClauses = .ok F := by
  obtain ⟨clauses, distinct, run⟩ := built
  rw [← ofNamed_namedClauses run] at distinct run
  refine ⟨⟨⟨?_, ?_⟩, ?_, distinct⟩, run⟩
  · exact List.map_eq_nil_iff.not.2 printable.nonempty
  · intro clause listed l member
    obtain ⟨c, among, rfl⟩ := List.mem_map.1 listed
    obtain ⟨k, inside, rfl⟩ := List.mem_map.1 member
    rw [named_of_lt (F.covered c among k inside)]
    exact printable.readable _ (Array.getElem_mem _)
  · intro clause listed
    obtain ⟨c, among, rfl⟩ := List.mem_map.1 listed
    exact List.map_eq_nil_iff.not.2 (filled c among)

theorem literals_ne_nil_of_readInstance (read : readInstance text = .ok F) :
    ∀ c ∈ F.clauses, c.literals ≠ [] := by
  intro c among
  have listed : c.literals.map F.named ∈ F.namedClauses := List.mem_map_of_mem among
  obtain ⟨line, -, said⟩ := mem_right_of_forall₂ (namedClauses_of_lines read) listed
  exact List.map_eq_nil_iff.not.1 said.nonempty

theorem rewritten_instance (read : readInstance text = .ok F) :
    readInstance (instanceText F.namedClauses).toList = .ok F := by
  obtain ⟨writable, built⟩ := writable_namedClauses (of_ends (readInstance_ends text) read)
    (of_ends (readInstance_printable text) read) (literals_ne_nil_of_readInstance read)
  exact readInstance_instanceText writable built

theorem rewritten_batch (read : readBatch text = .ok formulas) (member : F ∈ formulas) :
    readInstance (instanceText F.namedClauses).toList = .ok F := by
  obtain ⟨block, -, alone⟩ := mem_right_of_forall₂ (readInstance_block read) member
  exact rewritten_instance alone

theorem rewritten_dimacs (read : Dimacs.read text = .ok F)
    (filled : ∀ c ∈ F.clauses, c.literals ≠ []) :
    readInstance (instanceText F.namedClauses).toList = .ok F := by
  obtain ⟨writable, built⟩ := writable_namedClauses (of_ends (Dimacs.read_ends text) read)
    (of_ends (Dimacs.read_printable text) read) filled
  exact readInstance_instanceText writable built

end Formulas

theorem written_texts_read_back :
    (∀ clauses, Writable clauses → ∃ F, Formula.ofNamed clauses = .ok F ∧
      F.namedClauses = clauses ∧ readInstance (instanceText clauses).toList = .ok F) ∧
    (∀ blanks instances, (∀ c ∈ blanks.toList, Text.isBlank c = true) → instances ≠ [] →
      (∀ clauses ∈ instances, Writable clauses) →
      ∃ formulas, instances.mapM Formula.ofNamed = .ok formulas ∧
        formulas.map Formula.namedClauses = instances ∧
        readBatch (batchText blanks instances).toList = .ok formulas) ∧
    (∀ text F, readInstance text = .ok F →
      readInstance (instanceText F.namedClauses).toList = .ok F) ∧
    (∀ text formulas, readBatch text = .ok formulas → ∀ F ∈ formulas,
      readInstance (instanceText F.namedClauses).toList = .ok F) ∧
    ∀ text F, Dimacs.read text = .ok F → (∀ c ∈ F.clauses, c.literals ≠ []) →
      readInstance (instanceText F.namedClauses).toList = .ok F := by
  refine ⟨fun clauses writable => ?_, fun blanks instances blank filled writable => ?_,
    fun _ _ => rewritten_instance, fun _ _ read _ => rewritten_batch read,
    fun _ _ => rewritten_dimacs⟩
  · obtain ⟨F, built⟩ := ofNamed_total writable.distinct
    exact ⟨F, built, ofNamed_namedClauses built, readInstance_instanceText writable built⟩
  · obtain ⟨formulas, built⟩ := mapM_total fun clauses member =>
      ofNamed_total (writable clauses member).distinct
    exact ⟨formulas, built, mapM_inverse (fun _ _ => ofNamed_namedClauses) built,
      readBatch_batchText filled blank writable built⟩

/-- A name with a dash behind, a name that is no ASCII text, and a clause said twice. -/
def dashedClauses : List (List NamedLiteral) :=
  [[⟨"ω", true⟩, ⟨"b-", false⟩], [⟨"b-", true⟩], [⟨"ω", true⟩, ⟨"b-", false⟩]]

def numberClauses : List (List NamedLiteral) := [[⟨"2", false⟩, ⟨"10", true⟩]]

def scatteredText : List Char := "ω ω\r\n\t\n -b  ω \n".toList

/-- The numerals of the text are not those that are written. -/
def paddedText : List Char := "p cnf 10 1\n-02 +10 -2 0\n".toList

theorem dashed_and_numbered_read_back :
    Writable dashedClauses ∧ Writable numberClauses ∧
    (∃ F, Formula.ofNamed dashedClauses = .ok F ∧
      readInstance "ω -b-\nb-\nω -b-".toList = .ok F) ∧
    (∃ formulas, [dashedClauses, numberClauses].mapM Formula.ofNamed = .ok formulas ∧
      readBatch "ω -b-\nb-\nω -b-\n\t\r\n \n-2 10".toList = .ok formulas) ∧
    (∃ F, readInstance scatteredText = .ok F ∧ readInstance "ω\n-b ω".toList = .ok F) ∧
    (∃ formulas, readBatch scatteredText = .ok formulas ∧
      ∃ F ∈ formulas, readInstance "-b ω".toList = .ok F) ∧
    ∃ F, Dimacs.read paddedText = .ok F ∧ readInstance "-2 10".toList = .ok F := by
  have dashed : Writable dashedClauses := ⟨⟨by decide, by decide⟩, by decide, by decide⟩
  have numbered : Writable numberClauses := ⟨⟨by decide, by decide⟩, by decide, by decide⟩
  have single : instanceText dashedClauses = "ω -b-\nb-\nω -b-" := by decide
  have joined : batchText "\t\r\n " [dashedClauses, numberClauses] =
      "ω -b-\nb-\nω -b-\n\t\r\n \n-2 10" := by decide
  obtain ⟨instances, batches, whole, parts, dimacs⟩ := written_texts_read_back
  refine ⟨dashed, numbered, ?_, ?_, ?_, ?_, ?_⟩
  · obtain ⟨F, built, -, read⟩ := instances dashedClauses dashed
    rw [single] at read
    exact ⟨F, built, read⟩
  · obtain ⟨formulas, built, -, read⟩ := batches "\t\r\n " [dashedClauses, numberClauses]
      (List.all_eq_true.1 (by decide)) (by decide) (by simp [dashed, numbered])
    rw [joined] at read
    exact ⟨formulas, built, read⟩
  · have named : (readInstance scatteredText).map Formula.namedClauses =
        .ok [[⟨"ω", true⟩], [⟨"b", false⟩, ⟨"ω", true⟩]] := by cbv
    obtain ⟨F, read, clauses⟩ := map_eq_ok_iff.1 named
    have again := whole scatteredText F read
    rw [clauses] at again
    exact ⟨F, read, again⟩
  · have named : (readBatch scatteredText).map (List.map Formula.namedClauses) =
        .ok [[[⟨"ω", true⟩]], [[⟨"b", false⟩, ⟨"ω", true⟩]]] := by cbv
    obtain ⟨formulas, read, clauses⟩ := map_eq_ok_iff.1 named
    have listed : [[⟨"b", false⟩, ⟨"ω", true⟩]] ∈ formulas.map Formula.namedClauses := by
      simp [clauses]
    obtain ⟨F, member, same⟩ := List.mem_map.1 listed
    have again := parts scatteredText formulas read F member
    rw [same] at again
    exact ⟨formulas, read, F, member, again⟩
  · have named : (Dimacs.read paddedText).map Formula.namedClauses =
        .ok [[⟨"2", false⟩, ⟨"10", true⟩]] := by cbv
    obtain ⟨F, read, clauses⟩ := map_eq_ok_iff.1 named
    have filled : ∀ c ∈ F.clauses, c.literals ≠ [] := by
      intro c among empty
      have listed : c.literals.map F.named ∈ F.namedClauses := List.mem_map_of_mem among
      rw [clauses, empty] at listed
      simp at listed
    have again := dimacs paddedText F read filled
    rw [clauses] at again
    exact ⟨F, read, again⟩

end ClausalSearch.NamedFormat
