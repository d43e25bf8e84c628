import ClausalSearch.Dimacs
import ClausalSearch.Proofs.Interning
import ClausalSearch.Proofs.Tokens

/-!
Reading ends in formulas or in an error of the text. A reader drops a literal that its clause
already has and rejects the opposite one, so the clauses that reach the interning repeat no name.
The loop that reads a batch line by line reads its maximal runs of lines that are not blank.
-/
namespace ClausalSearch

variable {clause : List NamedLiteral} {clauses : List (List NamedLiteral)}

def FormatError.OfText : FormatError → Prop
  | .fault _ => False
  | _ => True

/-- A formula interned from clauses that repeat no name. -/
def Formula.Built (F : Formula) : Prop :=
  ∃ clauses, DistinctNames clauses ∧ Formula.ofNamed clauses = .ok F

theorem not_fault_of_ends {α : Type} {P : α → Prop} {x : Except FormatError α}
    (ends : Ends P FormatError.OfText x) (fault : Fault) : x ≠ .error (.fault fault) := by
  rintro rfl
  exact ends

namespace NamedFormat

theorem addLiteral_ends {quoted : String} {l : NamedLiteral}
    (distinct : (clause.map NamedLiteral.name).Nodup) :
    Ends (fun after => (after.map NamedLiteral.name).Nodup) FormatError.OfText
      (addLiteral quoted clause l) := by
  unfold addLiteral
  split
  · rename_i unseen
    have fresh : l.name ∉ clause.map NamedLiteral.name := by
      intro listed
      obtain ⟨seen, member, same⟩ := List.mem_map.1 listed
      exact List.find?_eq_none.1 unseen seen member (beq_iff_eq.2 same)
    change ((clause ++ [l]).map NamedLiteral.name).Nodup
    rw [List.map_append]
    exact distinct.append (List.nodup_singleton _) (List.disjoint_singleton.2 fresh)
  · split
    · exact distinct
    · trivial

theorem readClause_ends (line : List Char) (number : Nat) :
    Ends (fun clause => (clause.map NamedLiteral.name).Nodup) FormatError.OfText
      (readClause line number) := by
  refine ends_foldlM List.nodup_nil ?_
  intro clause token _ distinct
  split
  · exact addLiteral_ends distinct
  · trivial

theorem readClauses_ends (lines : List (List Char × Nat)) :
    Ends DistinctNames FormatError.OfText (readClauses lines) :=
  ends_mapM fun line _ => readClause_ends line.1 line.2

theorem intern_ends (distinct : DistinctNames clauses) :
    Ends Formula.Built FormatError.OfText (intern clauses) := by
  obtain ⟨F, built⟩ := ofNamed_total distinct
  rw [intern, built]
  exact ⟨clauses, distinct, built⟩

theorem intern_total (distinct : DistinctNames clauses) : ∃ F, intern clauses = .ok F := by
  obtain ⟨F, built⟩ := ofNamed_total distinct
  exact ⟨F, by rw [intern, built]; rfl⟩

theorem intern_eq_ok_iff {F : Formula} :
    intern clauses = .ok F ↔ Formula.ofNamed clauses = .ok F :=
  mapError_eq_ok_iff

theorem namedClauses_of_intern {F : Formula} (run : intern clauses = .ok F) :
    F.namedClauses = clauses :=
  ofNamed_namedClauses (intern_eq_ok_iff.1 run)

theorem mem_names_of_intern {F : Formula} {name : String} (run : intern clauses = .ok F) :
    name ∈ F.names ↔ ∃ clause ∈ clauses, ∃ l ∈ clause, l.name = name :=
  mem_names_of_ofNamed (intern_eq_ok_iff.1 run)

theorem readInstance_ends (text : List Char) :
    Ends Formula.Built FormatError.OfText (readInstance text) := by
  apply ends_bind (readClauses_ends _)
  intro clauses distinct
  split
  · trivial
  · exact intern_ends distinct

section Batches

variable {r : Reading} {front lines : List (List Char × Nat)} {line : List Char × Nat}

/-- The maximal runs of lines that are not blank. -/
def segments (lines : List (List Char × Nat)) : List (List (List Char × Nat)) :=
  (lines.splitOnP isSeparator).filter (!·.isEmpty)

def blocks (text : List Char) : List (List (List Char × Nat)) := segments (Text.numberedLines text)

theorem segments_flatten (lines : List (List Char × Nat)) :
    (segments lines).flatten = lines.filter (!isSeparator ·) := by
  rw [segments, List.flatten_filter_not_isEmpty, Text.flatten_splitOnP]

theorem segments_of_solid (solid : ∀ line ∈ front, isSeparator line = false) :
    segments front = if front.isEmpty then [] else [front] := by
  rw [segments, List.splitOnP_eq_singleton solid]
  cases front <;> rfl

theorem segments_append (solid : ∀ line ∈ front, isSeparator line = false)
    (cut : isSeparator line = true) (lines : List (List Char × Nat)) :
    segments (front ++ line :: lines) = segments front ++ segments lines := by
  rw [segments, List.splitOnP_append_cons_of_forall_mem solid line cut, ← List.singleton_append,
    List.filter_append, ← List.splitOnP_eq_singleton solid]
  rfl

def readSegments (lines : List (List Char × Nat)) : Except FormatError (List Formula) := do
  (← (segments lines).mapM readClauses).mapM intern

theorem readClauses_append (front lines : List (List Char × Nat)) :
    readClauses (front ++ lines) = (do
      let clauses ← readClauses front
      return clauses ++ (← readClauses lines)) :=
  List.mapM_append

theorem readClauses_cons (line : List Char × Nat) (lines : List (List Char × Nat)) :
    readClauses (line :: lines) = (do
      let clause ← readClause line.1 line.2
      return clause :: (← readClauses lines)) :=
  List.mapM_cons

theorem readClauses_segments (lines : List (List Char × Nat)) :
    readClauses (lines.filter (!isSeparator ·)) =
      List.flatten <$> (segments lines).mapM readClauses := by
  rw [← segments_flatten]
  exact mapM_flatten (segments lines) _

theorem readSegments_of_error {e : FormatError}
    (failed : readClauses (lines.filter (!isSeparator ·)) = .error e) :
    readSegments lines = .error e := by
  rw [readClauses_segments] at failed
  have first : (segments lines).mapM readClauses = .error e := map_eq_error_iff.1 failed
  rw [readSegments, first]
  rfl

section Step

variable (solid : ∀ line ∈ front, isSeparator line = false)
  (read : readClauses front = .ok r.current)
include solid read

theorem instances_of_front :
    (segments front).mapM readClauses = .ok (if r.current.isEmpty then [] else [r.current]) := by
  have counted := mapM_length read
  rw [segments_of_solid solid]
  cases front with
  | nil =>
    rw [List.length_eq_zero_iff.1 counted]
    rfl
  | cons first rest =>
    have filled : r.current.isEmpty = false := by
      rw [List.isEmpty_eq_false_iff_exists_mem, ← List.length_pos_iff_exists_mem, counted]
      exact Nat.succ_pos _
    rw [filled]
    exact mapM_eq_ok_iff.2 (.cons read .nil)

theorem close_eq : ∃ formulas, readSegments front = .ok formulas ∧
    r.close = .ok ⟨r.formulas ++ formulas, []⟩ := by
  have instances := instances_of_front solid read
  obtain ⟨earlier, current⟩ := r
  cases current with
  | nil =>
    rw [readSegments, instances]
    exact ⟨[], rfl, by rw [List.append_nil]; rfl⟩
  | cons clause rest =>
    obtain ⟨F, built⟩ := intern_total (of_ends (readClauses_ends front) read)
    rw [readSegments, instances, Reading.close, built]
    exact ⟨[F], mapM_eq_ok_iff.2 (.cons built .nil), rfl⟩

theorem readSegments_append (cut : isSeparator line = true) (lines : List (List Char × Nat)) :
    readSegments (front ++ line :: lines) = (do
      let formulas ← readSegments front
      return formulas ++ (← readSegments lines)) := by
  obtain ⟨formulas, first, -⟩ := close_eq solid read
  have instances := instances_of_front solid read
  rw [first, ok_bind, readSegments, segments_append solid cut, List.mapM_append]
  rw [readSegments, instances, ok_bind] at first
  rw [instances, ok_bind, readSegments]
  cases (segments lines).mapM readClauses with
  | error e => rfl
  | ok later =>
    change List.mapM intern (_ ++ later) = _
    rw [List.mapM_append, first]
    rfl

/-- The loop reads the run under way together with the lines to come. -/
theorem foldlM_readLine_eq : (lines.foldlM Reading.readLine r >>= Reading.close) = (do
    return ⟨r.formulas ++ (← readSegments (front ++ lines)), []⟩) := by
  induction lines generalizing r front with
  | nil =>
    obtain ⟨formulas, first, closed⟩ := close_eq solid read
    rw [List.append_nil, first]
    exact closed
  | cons line lines ih =>
    rw [List.foldlM_cons, Reading.readLine]
    by_cases cut : isSeparator line = true
    · -- a blank line closes the run, and the lines behind it are read from nothing
      obtain ⟨formulas, first, closed⟩ := close_eq solid read
      rw [if_pos cut, closed, ok_bind, ih (List.forall_mem_nil _) rfl,
        readSegments_append solid read cut, first, List.nil_append]
      cases readSegments lines with
      | error e => rfl
      | ok later =>
        simp only [ok_bind, List.append_assoc]
        rfl
    · rw [if_neg cut]
      cases next : readClause line.1 line.2 with
      | error e =>
        -- interning never fails, so the error of the line is that of all runs
        have failed : readClauses ((front ++ line :: lines).filter (!isSeparator ·)) = .error e := by
          rw [List.filter_append, List.filter_eq_self.2 (by simpa using solid),
            List.filter_cons_of_pos (by simpa using cut), readClauses_append, read, ok_bind,
            readClauses_cons, next]
          rfl
        rw [readSegments_of_error failed]
        rfl
      | ok clause =>
        have longer : readClauses (front ++ [line]) = .ok (r.current ++ [clause]) := by
          rw [readClauses_append, read, ok_bind, readClauses_cons, next]
          rfl
        have solid : ∀ other ∈ front ++ [line], isSeparator other = false :=
          List.forall_mem_append.2 ⟨solid, List.forall_mem_singleton.2 (by simpa using cut)⟩
        rw [List.append_cons]
        exact ih (r := { r with current := r.current ++ [clause] }) solid longer

end Step

theorem readBatch_eq (text : List Char) : readBatch text = (do
    let instances ← (blocks text).mapM readClauses
    if instances.isEmpty then throw .emptyFormula
    instances.mapM intern) := by
  have loop : ((Text.numberedLines text).foldlM Reading.readLine {} >>= Reading.close) = (do
      return ⟨[] ++ (← readSegments ([] ++ Text.numberedLines text)), []⟩) :=
    foldlM_readLine_eq (List.forall_mem_nil _) rfl
  have closed : readBatch text = (do
      let formulas ← readSegments (Text.numberedLines text)
      if formulas.isEmpty then throw .emptyFormula
      return formulas) := by
    rw [readBatch, ← bind_assoc, loop, List.nil_append]
    cases readSegments (Text.numberedLines text) <;> rfl
  rw [closed, readSegments, ← blocks]
  cases read : (blocks text).mapM readClauses with
  | error e => rfl
  | ok instances =>
    have distinct := of_ends (ends_mapM fun block _ => readClauses_ends block) read
    obtain ⟨formulas, built⟩ : ∃ formulas, instances.mapM intern = .ok formulas :=
      mapM_total fun clauses member => intern_total (distinct clauses member)
    rw [ok_bind, ok_bind, built, ok_bind]
    have counted := mapM_length built
    cases formulas with
    | nil =>
      rw [List.length_eq_zero_iff.1 counted.symm]
      rfl
    | cons F formulas =>
      cases instances with
      | nil => cases counted
      | cons clauses instances => rfl

end Batches

theorem readBatch_ends (text : List Char) :
    Ends (fun formulas => ∀ F ∈ formulas, F.Built) FormatError.OfText (readBatch text) := by
  rw [readBatch_eq]
  apply ends_bind (ends_mapM fun block _ => readClauses_ends block)
  intro instances distinct
  split
  · trivial
  · exact ends_mapM fun clauses member => intern_ends (distinct clauses member)

end NamedFormat

namespace Dimacs

theorem readHeader_ends (line : List Char) :
    Ends (fun _ => True) FormatError.OfText (readHeader line) := by
  unfold readHeader
  split
  · split
    · split
      · trivial
      · trivial
    · trivial
  · trivial

theorem readLiteral_ends (quoted : String) (max : Nat) (token : List Char) :
    Ends (fun _ => True) FormatError.OfText (readLiteral quoted max token) := by
  unfold readLiteral
  cases Text.integer token with
  | error cause =>
    trivial
  | ok value =>
    simp only [Except.mapError, ok_bind]
    split
    · trivial
    · trivial

theorem readClause_ends (max : Nat) (line : List Char) :
    Ends (fun clause => (clause.map NamedLiteral.name).Nodup) FormatError.OfText
      (readClause max line) := by
  rw [readClause]
  split
  · trivial
  · refine ends_foldlM List.nodup_nil ?_
    intro clause token _ distinct
    exact ends_bind (readLiteral_ends _ max token) fun l _ => NamedFormat.addLiteral_ends distinct

theorem read_ends (text : List Char) : Ends Formula.Built FormatError.OfText (read text) := by
  rw [read]
  split
  · trivial
  · rename_i problem body _
    apply ends_bind (readHeader_ends problem)
    intro header _
    apply ends_bind (ends_mapM fun line _ => readClause_ends header.numVariables line)
    intro clauses distinct
    split
    · split <;> trivial
    · split
      · trivial
      · exact NamedFormat.intern_ends distinct

end Dimacs

end ClausalSearch
