import ClausalSearch.Proofs.Names
import ClausalSearch.Proofs.Satisfiability
import Mathlib

/-!
Printed models are read back. The line of a model is one clause of the named format: its tokens are
the texts of the bound literals in binding order, and reading it gives these literals again. So the
value of a name is the token by which the line shows it.
-/
namespace ClausalSearch

variable {F : Formula} {m : Model} {run : Run} {l : Literal} {clause : List NamedLiteral}

namespace NamedFormat

theorem addLiteral_fresh {quoted : String} {l : NamedLiteral}
    (fresh : l.name ∉ clause.map NamedLiteral.name) :
    addLiteral quoted clause l = .ok (clause ++ [l]) := by
  have unseen : clause.find? (·.name == l.name) = none := by
    rw [List.find?_eq_none]
    intro k member same
    exact fresh (List.mem_map.2 ⟨k, member, beq_iff_eq.1 same⟩)
  rw [addLiteral, unseen]

theorem readTokens_texts {line : List Char} {number : Nat} {before rest : List NamedLiteral}
    (readable : ∀ l ∈ rest, Readable l.name)
    (distinct : ((before ++ rest).map NamedLiteral.name).Nodup) :
    (rest.map (·.text.toList)).foldlM (readToken line number) before = .ok (before ++ rest) := by
  induction rest generalizing before with
  | nil =>
    rw [List.append_nil]
    rfl
  | cons l rest ih =>
    obtain ⟨first, later⟩ := List.forall_mem_cons.1 readable
    have fresh : l.name ∉ before.map NamedLiteral.name := by
      rw [List.map_append, List.map_cons] at distinct
      exact fun listed => (List.disjoint_of_nodup_append distinct) listed (List.mem_cons_self ..)
    have added : readToken line number before l.text.toList = .ok (before ++ [l]) := by
      simp only [readToken, NamedLiteral.parse_text first, addLiteral_fresh fresh]
    rw [← List.singleton_append, ← List.append_assoc] at distinct
    rw [List.map_cons, List.foldlM_cons, added, ok_bind, ih later distinct, List.append_assoc,
      List.singleton_append]

section Line

variable (readable : ∀ l ∈ clause, Readable l.name)
include readable

theorem tokens_clauseText :
    Text.tokens (clauseText clause).toList = clause.map (·.text.toList) := by
  rw [clauseText, String.toList_intercalate, List.map_map]
  apply Text.tokens_intercalate
  intro word member
  obtain ⟨l, inside, rfl⟩ := List.mem_map.1 member
  exact NamedLiteral.solid_text (readable l inside)

theorem clauseText_single : '\n' ∉ (clauseText clause).toList := by
  rw [clauseText, String.toList_intercalate, List.map_map]
  intro feed
  rcases Text.mem_intercalate feed with same | ⟨word, member, inside⟩
  · cases same
  · obtain ⟨l, among, rfl⟩ := List.mem_map.1 member
    have unbroken := (NamedLiteral.solid_text (readable l among)).unbroken _ inside
    cases unbroken

theorem mem_tokens_iff {name : String} (undashed : name.toList.head? ≠ some '-') :
    (name.toList ∈ Text.tokens (clauseText clause).toList ↔ ⟨name, true⟩ ∈ clause) ∧
      ('-' :: name.toList ∈ Text.tokens (clauseText clause).toList ↔ ⟨name, false⟩ ∈ clause) := by
  rw [tokens_clauseText readable, List.mem_map, List.mem_map]
  constructor
  · simp only [NamedLiteral.text_eq_name_iff undashed, exists_eq_right]
  · constructor
    · rintro ⟨l, member, same⟩
      exact (NamedLiteral.text_eq_dash_iff (readable l member)).1 same ▸ member
    · intro member
      exact ⟨_, member, (NamedLiteral.text_eq_dash_iff (readable _ member)).2 rfl⟩

theorem readClause_clauseText (distinct : (clause.map NamedLiteral.name).Nodup) (number : Nat) :
    readClause (clauseText clause).toList number = .ok clause := by
  rw [readClause_eq, tokens_clauseText readable]
  exact readTokens_texts readable distinct

theorem readInstance_clauseText (filled : clause ≠ [])
    (distinct : (clause.map NamedLiteral.name).Nodup) :
    ∃ G c, readInstance (clauseText clause).toList = .ok G ∧ G.clauses = [c] ∧
      c.literals.map G.named = clause := by
  have tokens := tokens_clauseText readable
  have solid : (clauseText clause).toList.all Text.isBlank = false := by
    rw [← Bool.not_eq_true, ← Text.tokens_eq_nil_iff, tokens, List.map_eq_nil_iff]
    exact filled
  have nonempty : (clauseText clause).toList ≠ [] := by
    intro empty
    rw [empty] at solid
    cases solid
  have lines := Text.lines_of_single nonempty (clauseText_single readable)
  have kept : (Text.numberedLines (clauseText clause).toList).filter (!isSeparator ·) =
      [((clauseText clause).toList, 1)] := by
    rw [Text.numberedLines, lines]
    simp [isSeparator, solid]
  have read : readClauses [((clauseText clause).toList, 1)] = .ok [clause] := by
    rw [readClauses, mapM_eq_ok_iff]
    exact .cons (readClause_clauseText readable distinct 1) .nil
  obtain ⟨G, built⟩ : ∃ G, Formula.ofNamed [clause] = .ok G :=
    ofNamed_total (List.forall_mem_singleton.2 distinct)
  have named := ofNamed_namedClauses built
  obtain ⟨c, clauses, same⟩ := List.map_eq_singleton_iff.1 named
  refine ⟨G, c, ?_, clauses, same⟩
  rw [readInstance, kept, read, ok_bind]
  change intern [clause] = .ok G
  rw [intern, built]
  rfl

end Line

end NamedFormat

/-- A formula that a text holds. -/
def Formula.Parsed (F : Formula) : Prop :=
  (∃ text, NamedFormat.readInstance text = .ok F) ∨ (∃ text, Dimacs.read text = .ok F) ∨
    ∃ text formulas, NamedFormat.readBatch text = .ok formulas ∧ F ∈ formulas

theorem printable_of_parsed (parsed : F.Parsed) : F.Printable := by
  rcases parsed with ⟨text, read⟩ | ⟨text, read⟩ | ⟨text, formulas, read, member⟩
  · exact of_ends (NamedFormat.readInstance_printable text) read
  · exact of_ends (Dimacs.read_printable text) read
  · exact of_ends (NamedFormat.readBatch_printable text) read F member

section Printed

variable (legal : m.assignment.Legal m.formula.numVariables)
include legal

theorem value_eq_some_iff {name : String} {positive : Bool} :
    m.value? name = some positive ↔ ⟨name, positive⟩ ∈ m.trail.map m.formula.named := by
  rw [Model.value?, Formula.rank?]
  constructor
  · intro value
    obtain ⟨v, found, entry⟩ := Option.bind_eq_some_iff.1 value
    obtain ⟨rank, ranked, rfl⟩ := Option.map_eq_some_iff.1 found
    have same := (NameTable.rank_eq_some_iff m.formula.ordered).1 ranked
    have made : m.assignment.Makes ⟨rank, positive⟩ := Option.join_eq_some_iff.1 entry
    refine List.mem_map.2 ⟨_, (Assignment.makes_iff_of_legal legal).1 made, ?_⟩
    rw [named_of_lt (l := ⟨rank, positive⟩) rank.isLt]
    exact congrArg (NamedLiteral.mk · positive) same
  · intro listed
    obtain ⟨l, member, named⟩ := List.mem_map.1 listed
    have inside : l.var < m.formula.names.size := Assignment.trail_lt_of_legal legal l member
    rw [named_of_lt inside, NamedLiteral.mk.injEq] at named
    obtain ⟨same, rfl⟩ := named
    have ranked := (NameTable.rank_eq_some_iff m.formula.ordered (v := ⟨l.var, inside⟩)).2 same
    have made : m.assignment.values[l.var]? = some (some l.positive) :=
      (Assignment.makes_iff_of_legal legal).2 member
    rw [ranked]
    exact Option.join_eq_some_iff.2 made

theorem value_eq_none_iff {name : String} : m.value? name = none ↔
    ⟨name, true⟩ ∉ m.trail.map m.formula.named ∧ ⟨name, false⟩ ∉ m.trail.map m.formula.named := by
  rw [← value_eq_some_iff legal, ← value_eq_some_iff legal]
  rcases m.value? name with _ | _ | _ <;> simp

theorem trail_names_nodup :
    ((m.trail.map m.formula.named).map NamedLiteral.name).Nodup :=
  names_nodup (Assignment.trail_lt_of_legal legal) (Assignment.trail_nodup_of_legal legal)

variable (printable : m.formula.Printable)
include printable

theorem trail_readable : ∀ l ∈ m.trail.map m.formula.named, Readable l.name := by
  intro l listed
  obtain ⟨k, member, rfl⟩ := List.mem_map.1 listed
  have inside : k.var < m.formula.names.size := Assignment.trail_lt_of_legal legal k member
  rw [named_of_lt inside]
  exact printable.readable _ (Array.getElem_mem _)

/-- A clause is made true by one of its literals, so something is bound. -/
theorem trail_filled : m.trail.map m.formula.named ≠ [] := by
  obtain ⟨c, member⟩ := List.exists_mem_of_ne_nil _ printable.nonempty
  have satisfied := m.satisfied
  rw [allSatisfied_eq (formula_covered m.sized), Except.ok.injEq, decide_eq_true_iff] at satisfied
  obtain ⟨l, -, made⟩ := satisfied c member
  exact List.ne_nil_of_mem (List.mem_map_of_mem ((Assignment.makes_iff_of_legal legal).1 made))

theorem text_ne_empty : m.text ≠ "" := by
  intro empty
  have tokens := NamedFormat.tokens_clauseText (trail_readable legal printable)
  rw [← Model.text, empty] at tokens
  exact trail_filled legal printable (List.map_eq_nil_iff.1 tokens.symm)

end Printed

theorem model_line_reads_back {F : Formula} (parsed : F.Parsed) :
    ∃ run, solve F = .ok run ∧ ∀ m, run.model = some m →
      m.formula = F ∧ run.line ≠ "" ∧ '\n' ∉ run.line.toList ∧
      (∃ G c, NamedFormat.readInstance run.line.toList = .ok G ∧ G.clauses = [c] ∧
        c.literals.map G.named = m.trail.map F.named) ∧
      ∀ name : String, name.toList.head? ≠ some '-' →
        (m.value? name = some true ↔ name.toList ∈ Text.tokens run.line.toList) ∧
        (m.value? name = some false ↔ '-' :: name.toList ∈ Text.tokens run.line.toList) ∧
        (m.value? name = none ↔ name.toList ∉ Text.tokens run.line.toList ∧
          '-' :: name.toList ∉ Text.tokens run.line.toList) := by
  obtain ⟨run, found, t, solved, solves⟩ := solve_solves F
  refine ⟨run, solved, fun m answer => ?_⟩
  obtain ⟨rfl, legal⟩ := model_legal solves answer
  have printable := printable_of_parsed parsed
  have readable := trail_readable legal printable
  have line : run.line = m.text := by rw [Run.line, answer]; rfl
  rw [line]
  refine ⟨rfl, text_ne_empty legal printable, NamedFormat.clauseText_single readable,
    NamedFormat.readInstance_clauseText readable (trail_filled legal printable)
      (trail_names_nodup legal), fun name undashed => ?_⟩
  obtain ⟨positive, negative⟩ := NamedFormat.mem_tokens_iff readable undashed
  rw [Model.text, positive, negative]
  exact ⟨value_eq_some_iff legal, value_eq_some_iff legal, value_eq_none_iff legal⟩

/-- A repeated literal, a blank line, and a variable that no longer matters at the end. -/
def idleText : List Char := "-x ω\n-x -ω -x\n\né -y\n-é y\n".toList

theorem idle_model_reads_back : ∃ F run m, NamedFormat.readInstance idleText = .ok F ∧
    solve F = .ok run ∧ run.model = some m ∧ run.line = "-x y é" ∧
    (∃ G c, NamedFormat.readInstance run.line.toList = .ok G ∧ G.clauses = [c] ∧
      c.literals.map G.named = m.trail.map F.named) ∧
    m.value? "é" = some true ∧ m.value? "x" = some false ∧ m.value? "ω" = none := by
  have lines : ((NamedFormat.readInstance idleText).bind fun F =>
      (solve F).mapError .fault).map Run.line = .ok "-x y é" := by cbv
  cases read : NamedFormat.readInstance idleText with
  | error e =>
    rw [read] at lines
    cases lines
  | ok F =>
    obtain ⟨run, solved, reads⟩ := model_line_reads_back (.inl ⟨idleText, read⟩)
    rw [read, Except.bind, solved] at lines
    have line : run.line = "-x y é" := Except.ok.inj lines
    cases answer : run.model with
    | none =>
      rw [Run.line, answer] at line
      exact absurd line (by decide)
    | some m =>
      obtain ⟨-, -, -, again, values⟩ := reads m answer
      rw [line] at values
      refine ⟨F, run, m, rfl, solved, answer, line, again, ?_, ?_, ?_⟩
      · exact (values "é" (by decide)).1.2 (by decide)
      · exact (values "x" (by decide)).2.1.2 (by decide)
      · exact (values "ω" (by decide)).2.2.2 (by decide)

end ClausalSearch
