import ClausalSearch.Proofs.Gathering
import ClausalSearch.Proofs.Names
import Mathlib

/-!
The grammar of the named format. A token is a name or a dash and a name, and no line has a name
under both signs. The reader accepts exactly these texts, as long as one line is not blank. The
clause of a line is the list of its literals, each at its first place. The error of any other text
is that of its first offending token.
-/
namespace ClausalSearch.NamedFormat

variable {F : Formula} {text line token : List Char} {name : String} {number : Nat}
  {l k : NamedLiteral} {literals clause : List NamedLiteral} {clauses : List (List NamedLiteral)}
  {e : FormatError}

structure ProperName (name : String) : Prop where
  nonempty : name ≠ ""
  undashed : name.toList.head? ≠ some '-'

inductive Spells : List Char → NamedLiteral → Prop where
  | name {name : String} (proper : ProperName name) : Spells name.toList ⟨name, true⟩
  | dash {name : String} (proper : ProperName name) : Spells ('-' :: name.toList) ⟨name, false⟩

structure Expresses (line : List Char) (literals : List NamedLiteral) : Prop where
  spelled : List.Forall₂ Spells (Text.tokens line) literals
  consistent : Consistent literals

/-- What is wrong with a token that stands behind the literals in its line. -/
inductive TokenFault (number : Nat) (quoted : String) (before : List NamedLiteral) :
    List Char → FormatError → Prop where
  | emptyName : TokenFault number quoted before ['-'] (.malformedLiteral number quoted .emptyName)
  | invalidName (rest : List Char) : TokenFault number quoted before ('-' :: '-' :: rest)
      (.malformedLiteral number quoted (.invalidName (String.ofList ('-' :: rest))))
  | contradictory {token : List Char} {l : NamedLiteral} (spelled : Spells token l)
      (opposite : l.negate ∈ before) :
      TokenFault number quoted before token (.contradictoryLiteral quoted l.name)

def LineFault (number : Nat) (line : List Char) (e : FormatError) : Prop :=
  ∃ before token after literals, Text.tokens line = before ++ token :: after ∧
    List.Forall₂ Spells before literals ∧ Consistent literals ∧
    TokenFault number (String.ofList line) literals token e

/-- The first line of the text at which something is wrong, counted from one. -/
def FirstFault (text : List Char) (e : FormatError) : Prop :=
  ∃ before line after, Text.lines text = before ++ line :: after ∧
    (∀ earlier ∈ before, ∃ literals, Expresses earlier literals) ∧
    LineFault (before.length + 1) line e

def Blank (line : List Char) : Prop := ∀ c ∈ line, Text.isBlank c = true

instance : Decidable (Blank line) := inferInstanceAs (Decidable (∀ c ∈ line, _))

section Tokens

theorem properName_iff {rest : List Char} :
    ProperName (String.ofList rest) ↔ rest ≠ [] ∧ rest.head? ≠ some '-' := by
  have empty : String.ofList rest = "" ↔ rest = [] := by
    rw [← String.toList_eq_nil_iff, String.toList_ofList]
  constructor
  · rintro ⟨nonempty, undashed⟩
    rw [String.toList_ofList] at undashed
    exact ⟨fun none => nonempty (empty.2 none), undashed⟩
  · rintro ⟨nonempty, undashed⟩
    exact ⟨fun none => nonempty (empty.1 none), by rwa [String.toList_ofList]⟩

theorem ofName_eq_ok_iff {positive : Bool} {rest : List Char} :
    NamedLiteral.ofName positive rest = .ok l ↔
      ProperName (String.ofList rest) ∧ l = ⟨String.ofList rest, positive⟩ := by
  rw [properName_iff]
  unfold NamedLiteral.ofName
  split
  · simp
  · simp
  · rename_i nonempty undashed
    have proper : rest ≠ [] ∧ rest.head? ≠ some '-' := by
      refine ⟨nonempty, fun dashed => ?_⟩
      obtain ⟨tail, same⟩ := List.head?_eq_some_iff.1 dashed
      exact undashed tail same
    rw [and_iff_right proper, Except.ok.injEq, eq_comm]

theorem parse_eq_ok_iff : NamedLiteral.parse token = .ok l ↔ Spells token l := by
  unfold NamedLiteral.parse
  split
  · rename_i rest
    rw [ofName_eq_ok_iff]
    constructor
    · rintro ⟨proper, rfl⟩
      have dashed := Spells.dash proper
      rwa [String.toList_ofList] at dashed
    · intro spelled
      generalize same : '-' :: rest = token at spelled
      cases spelled with
      | name proper => exact absurd (by rw [← same]; rfl) proper.undashed
      | dash proper =>
        obtain rfl := List.cons.inj same |>.2
        rw [String.ofList_toList]
        exact ⟨proper, rfl⟩
  · rename_i undashed
    rw [ofName_eq_ok_iff]
    constructor
    · rintro ⟨proper, rfl⟩
      have plain := Spells.name proper
      rwa [String.toList_ofList] at plain
    · intro spelled
      cases spelled with
      | name proper =>
        rw [String.ofList_toList]
        exact ⟨proper, rfl⟩
      | dash proper => exact absurd rfl (undashed _)

theorem spells_unique (first : Spells token l) (second : Spells token k) : l = k := by
  rw [← parse_eq_ok_iff] at first second
  rw [first] at second
  exact Except.ok.inj second

theorem parse_eq_error_iff (nonempty : token ≠ []) {cause : LiteralError} :
    NamedLiteral.parse token = .error cause ↔ token = ['-'] ∧ cause = .emptyName ∨
      ∃ rest, token = '-' :: '-' :: rest ∧ cause = .invalidName (String.ofList ('-' :: rest)) := by
  unfold NamedLiteral.parse
  split
  · unfold NamedLiteral.ofName
    split
    · simp [eq_comm]
    · simp [eq_comm]
    · simp_all
  · unfold NamedLiteral.ofName
    split
    · exact absurd rfl nonempty
    · simp_all
    · simp_all

end Tokens

section Lines

def spell (number : Nat) (quoted : String) (token : List Char) :
    Except FormatError NamedLiteral :=
  (NamedLiteral.parse token).mapError (.malformedLiteral number quoted)

theorem readClause_eq_gather (line : List Char) (number : Nat) : readClause line number =
    gather (spell number (String.ofList line)) (String.ofList line) [] (Text.tokens line) := by
  have step : readToken line number = fun clause token =>
      spell number (String.ofList line) token >>= addLiteral (String.ofList line) clause := by
    funext clause token
    rw [readToken, spell]
    cases NamedLiteral.parse token <;> rfl
  rw [readClause_eq, step, gather]

theorem spelled_iff {quoted : String} {tokens : List (List Char)} :
    Spelled (spell number quoted) tokens literals ↔ List.Forall₂ Spells tokens literals := by
  simp only [Spelled, spell, mapError_eq_ok_iff, parse_eq_ok_iff]

theorem readClause_expresses_iff : readClause line number = .ok clause ↔
    ∃ literals, Expresses line literals ∧ clause = literals.eraseDups := by
  rw [readClause_eq_gather, gather_nil_eq_ok_iff]
  constructor
  · rintro ⟨literals, spelled, consistent, same⟩
    exact ⟨literals, ⟨spelled_iff.1 spelled, consistent⟩, same⟩
  · rintro ⟨literals, expressed, same⟩
    exact ⟨literals, spelled_iff.2 expressed.spelled, expressed.consistent, same⟩

theorem tokenFault_iff {quoted : String} (nonempty : token ≠ []) :
    TokenFault number quoted literals token e ↔ spell number quoted token = .error e ∨
      ∃ l, spell number quoted token = .ok l ∧ l.negate ∈ literals ∧
        e = .contradictoryLiteral quoted l.name := by
  simp only [spell, mapError_eq_ok_iff, mapError_eq_error_iff, parse_eq_ok_iff,
    parse_eq_error_iff nonempty]
  constructor
  · intro fault
    cases fault with
    | emptyName => exact .inl ⟨_, .inl ⟨rfl, rfl⟩, rfl⟩
    | invalidName rest => exact .inl ⟨_, .inr ⟨rest, rfl, rfl⟩, rfl⟩
    | contradictory spelled opposite => exact .inr ⟨_, spelled, opposite, rfl⟩
  · rintro (⟨cause, ⟨rfl, rfl⟩ | ⟨rest, rfl, rfl⟩, rfl⟩ | ⟨l, spelled, opposite, rfl⟩)
    · exact .emptyName
    · exact .invalidName rest
    · exact .contradictory spelled opposite

theorem readClause_fault_iff : readClause line number = .error e ↔ LineFault number line e := by
  rw [readClause_eq_gather, gather_nil_eq_error_iff, LineFault]
  refine exists_congr fun before => exists_congr fun token => exists_congr fun after =>
    exists_congr fun literals => and_congr_right fun split => ?_
  have member : token ∈ Text.tokens line := by simp [split]
  rw [spelled_iff, tokenFault_iff (Text.solid_of_mem_tokens member).nonempty]

theorem not_expresses_of_fault (fault : LineFault number line e) : ¬ Expresses line literals := by
  intro expressed
  have failed := readClause_fault_iff.2 fault
  rw [readClause_expresses_iff.2 ⟨literals, expressed, rfl⟩] at failed
  cases failed

theorem tokens_eq_nil_iff_blank : Text.tokens line = [] ↔ Blank line := by
  rw [Text.tokens_eq_nil_iff, List.all_eq_true, Blank]

theorem expresses_nil_of_blank (blank : Blank line) : Expresses line [] := by
  refine ⟨?_, consistent_nil⟩
  rw [tokens_eq_nil_iff_blank.2 blank]
  exact .nil

theorem literals_ne_nil (expressed : Expresses line literals) (filled : ¬ Blank line) :
    literals ≠ [] := by
  rintro rfl
  exact filled (tokens_eq_nil_iff_blank.1 (List.forall₂_nil_right_iff.1 expressed.spelled))

theorem mem_literals_iff (expressed : Expresses line literals) :
    l ∈ literals ↔ ∃ token ∈ Text.tokens line, Spells token l := by
  constructor
  · exact mem_right_of_forall₂ expressed.spelled
  · rintro ⟨token, member, spelled⟩
    obtain ⟨k, inside, same⟩ := mem_right_of_forall₂ (expressed.spelled.flip) member
    exact spells_unique same spelled ▸ inside

end Lines

section Texts

def clauseLines (text : List Char) : List (List Char) := (Text.lines text).filter (¬ Blank ·)

theorem solid_iff {numbered : List Char × Nat} :
    (!isSeparator numbered) = true ↔ ¬ Blank numbered.1 := by
  rw [Bool.not_eq_true', ← Bool.not_eq_true, isSeparator, List.all_eq_true, Blank]

theorem map_fst_solid (text : List Char) :
    ((Text.numberedLines text).filter (!isSeparator ·)).map Prod.fst = clauseLines text := by
  have lines : (Text.numberedLines text).map Prod.fst = Text.lines text := List.zipIdx_map_fst 1 _
  have same : (!isSeparator ·) = (fun line => decide (¬ Blank line)) ∘ Prod.fst := by
    funext numbered
    rw [Bool.eq_iff_iff, solid_iff, Function.comp, decide_eq_true_iff]
  rw [clauseLines, ← lines, List.filter_map, same]

theorem readClauses_expresses_iff :
    readClauses ((Text.numberedLines text).filter (!isSeparator ·)) = .ok clauses ↔
      List.Forall₂ (fun line clause => ∃ literals, Expresses line literals ∧
        clause = literals.eraseDups) (clauseLines text) clauses := by
  rw [readClauses, mapM_eq_ok_iff, ← map_fst_solid, List.forall₂_map_left_iff]
  simp only [readClause_expresses_iff]

theorem readClauses_fault_iff :
    readClauses ((Text.numberedLines text).filter (!isSeparator ·)) = .error e ↔
      FirstFault text e := by
  rw [readClauses, mapM_filter_eq_error_iff, Text.numberedLines]
  constructor
  · rintro ⟨before, ⟨line, number⟩, after, split, passed, -, failed⟩
    obtain ⟨front, tail, lines, rfl, rest⟩ := List.zipIdx_eq_append_iff.1 split
    obtain ⟨first, back, rfl, head, -⟩ := List.zipIdx_eq_cons_iff.1 rest.symm
    cases head
    refine ⟨front, line, back, lines, fun earlier member => ?_, ?_⟩
    -- a blank line is not read at all, but it says no literals, so nothing is wrong with it
    · by_cases blank : Blank earlier
      · exact ⟨[], expresses_nil_of_blank blank⟩
      · rw [← List.zipIdx_map_fst 1 front] at member
        obtain ⟨numbered, inside, rfl⟩ := List.mem_map.1 member
        obtain ⟨clause, run⟩ := passed numbered inside (solid_iff.2 blank)
        obtain ⟨literals, expressed, -⟩ := readClause_expresses_iff.1 run
        exact ⟨literals, expressed⟩
    · rw [Nat.add_comm]
      exact readClause_fault_iff.1 failed
  · rintro ⟨front, line, back, lines, passed, fault⟩
    obtain ⟨before, token, after, literals, tokens, -⟩ := id fault
    have solid : ¬ Blank line := by
      rw [← tokens_eq_nil_iff_blank, tokens]
      simp
    refine ⟨front.zipIdx 1, (line, front.length + 1), back.zipIdx (front.length + 2), ?_, ?_,
      solid_iff.2 solid, readClause_fault_iff.2 fault⟩
    · rw [lines, List.zipIdx_append, List.zipIdx_cons, Nat.add_comm 1]
    · intro numbered inside _
      obtain ⟨literals, expressed⟩ := passed numbered.1 (List.fst_mem_of_mem_zipIdx inside)
      exact ⟨literals.eraseDups, readClause_expresses_iff.2 ⟨literals, expressed, rfl⟩⟩

theorem clauseLines_eq_nil_iff : clauseLines text = [] ↔ ∀ line ∈ Text.lines text, Blank line := by
  simp [clauseLines]

theorem readInstance_eq_ok_iff : readInstance text = .ok F ↔ ∃ clauses,
    readClauses ((Text.numberedLines text).filter (!isSeparator ·)) = .ok clauses ∧
      clauses ≠ [] ∧ intern clauses = .ok F := by
  rw [readInstance, bind_eq_ok]
  refine exists_congr fun clauses => and_congr_right fun _ => ?_
  cases clauses <;> simp [throw, throwThe, MonadExceptOf.throw]

theorem readInstance_eq_error_iff : readInstance text = .error e ↔
    FirstFault text e ∨ e = .emptyFormula ∧ ∀ line ∈ Text.lines text, Blank line := by
  rw [← readClauses_fault_iff, ← clauseLines_eq_nil_iff, readInstance, bind_eq_error]
  refine or_congr_right ?_
  constructor
  · rintro ⟨clauses, run, failed⟩
    have distinct := of_ends (readClauses_ends _) run
    split at failed
    · rename_i empty
      cases failed
      rw [List.isEmpty_iff] at empty
      subst empty
      exact ⟨rfl, List.forall₂_nil_right_iff.1 (readClauses_expresses_iff.1 run)⟩
    · obtain ⟨F, built⟩ := intern_total distinct
      rw [built] at failed
      cases failed
  · rintro ⟨rfl, blank⟩
    refine ⟨[], readClauses_expresses_iff.2 ?_, rfl⟩
    rw [blank]
    exact .nil

theorem readInstance_total_iff : (∃ F, readInstance text = .ok F) ↔
    (∃ line ∈ Text.lines text, ¬ Blank line) ∧
      ∀ line ∈ Text.lines text, ∃ literals, Expresses line literals := by
  constructor
  · rintro ⟨F, run⟩
    obtain ⟨clauses, read, filled, -⟩ := readInstance_eq_ok_iff.1 run
    have expressed := readClauses_expresses_iff.1 read
    constructor
    · by_contra none
      push Not at none
      rw [clauseLines_eq_nil_iff.2 none, List.forall₂_nil_left_iff] at expressed
      exact filled expressed
    · intro line member
      by_cases blank : Blank line
      · exact ⟨[], expresses_nil_of_blank blank⟩
      · have listed : line ∈ clauseLines text := by simp [clauseLines, member, blank]
        obtain ⟨clause, -, literals, expressed, -⟩ := mem_right_of_forall₂ expressed.flip listed
        exact ⟨literals, expressed⟩
  · rintro ⟨⟨line, member, solid⟩, grammatical⟩
    cases run : readInstance text with
    | ok F => exact ⟨F, rfl⟩
    | error e =>
      rcases readInstance_eq_error_iff.1 run with
        ⟨before, faulty, after, lines, -, fault⟩ | ⟨-, blank⟩
      · obtain ⟨literals, expressed⟩ := grammatical faulty (by simp [lines])
        exact absurd expressed (not_expresses_of_fault fault)
      · exact absurd (blank line member) solid

structure ClauseOf (line : List Char) (clause : List NamedLiteral) : Prop where
  merged : ∃ literals, Expresses line literals ∧ clause = literals.eraseDups
  nonempty : clause ≠ []
  distinct : (clause.map NamedLiteral.name).Nodup

theorem clauseOf_of_expresses (expressed : Expresses line literals) (solid : ¬ Blank line) :
    ClauseOf line literals.eraseDups := by
  have run : readClause line 0 = .ok literals.eraseDups :=
    readClause_expresses_iff.2 ⟨literals, expressed, rfl⟩
  have distinct := of_ends (readClause_ends line 0) run
  refine ⟨⟨literals, expressed, rfl⟩, ?_, distinct⟩
  obtain ⟨l, member⟩ := List.exists_mem_of_ne_nil _ (literals_ne_nil expressed solid)
  exact List.ne_nil_of_mem (List.mem_eraseDups.2 member)

theorem namedClauses_of_lines (run : readInstance text = .ok F) :
    List.Forall₂ ClauseOf (clauseLines text) F.namedClauses := by
  obtain ⟨clauses, read, -, built⟩ := readInstance_eq_ok_iff.1 run
  have solid : ∀ line ∈ clauseLines text, ¬ Blank line := by simp [clauseLines]
  rw [namedClauses_of_intern built]
  refine ((List.forall₂_and_left _ _).2 ⟨solid, readClauses_expresses_iff.1 read⟩).imp ?_
  rintro line clause ⟨solid, literals, expressed, rfl⟩
  exact clauseOf_of_expresses expressed solid

theorem mem_names_iff (run : readInstance text = .ok F) : name ∈ F.names ↔
    ∃ line ∈ Text.lines text, ∃ token ∈ Text.tokens line, ∃ positive,
      Spells token ⟨name, positive⟩ := by
  obtain ⟨clauses, read, -, built⟩ := readInstance_eq_ok_iff.1 run
  have expressed := readClauses_expresses_iff.1 read
  rw [mem_names_of_intern built]
  constructor
  · rintro ⟨clause, among, l, inside, rfl⟩
    obtain ⟨line, listed, literals, expressed, rfl⟩ := mem_right_of_forall₂ expressed among
    obtain ⟨token, member, spelled⟩ :=
      (mem_literals_iff expressed).1 (List.mem_eraseDups.1 inside)
    exact ⟨line, (List.mem_filter.1 listed).1, token, member, l.positive, spelled⟩
  · rintro ⟨line, member, token, inside, positive, spelled⟩
    have solid : ¬ Blank line := fun blank =>
      List.ne_nil_of_mem inside (tokens_eq_nil_iff_blank.2 blank)
    have listed : line ∈ clauseLines text := by simp [clauseLines, member, solid]
    obtain ⟨clause, among, literals, expressed, rfl⟩ := mem_right_of_forall₂ expressed.flip listed
    refine ⟨_, among, ⟨name, positive⟩, List.mem_eraseDups.2 ?_, rfl⟩
    exact (mem_literals_iff expressed).2 ⟨token, inside, spelled⟩

theorem emptyFormula_iff : readInstance text = .error .emptyFormula ↔
    ∀ line ∈ Text.lines text, Blank line := by
  rw [readInstance_eq_error_iff, and_iff_right rfl, or_iff_right]
  rintro ⟨before, line, after, -, -, -, token, -, literals, -, -, -, fault⟩
  cases fault

end Texts

theorem readInstance_accepts_grammar (text : List Char) :
    ((∃ F, readInstance text = .ok F) ↔ (∃ line ∈ Text.lines text, ¬ Blank line) ∧
      ∀ line ∈ Text.lines text, ∃ literals, Expresses line literals) ∧
    (∀ F, readInstance text = .ok F →
      List.Forall₂ ClauseOf ((Text.lines text).filter (¬ Blank ·)) F.namedClauses ∧
      ∀ name, name ∈ F.names ↔ ∃ line ∈ Text.lines text, ∃ token ∈ Text.tokens line, ∃ positive,
        Spells token ⟨name, positive⟩) ∧
    (∀ e, readInstance text = .error e ↔
      FirstFault text e ∨ e = .emptyFormula ∧ ∀ line ∈ Text.lines text, Blank line) ∧
    (readInstance text = .error .emptyFormula ↔ ∀ line ∈ Text.lines text, Blank line) :=
  ⟨readInstance_total_iff, fun _ run => ⟨namedClauses_of_lines run, fun _ => mem_names_iff run⟩,
    fun _ => readInstance_eq_error_iff, emptyFormula_iff⟩

def mergedText : List Char := "b -é b\r\n \u3000\n-é ω b".toList

/-- The line has a contradiction before its malformed token. -/
def clashingText : List Char := "a\n\nb -c  c --x".toList

theorem merged_and_clashing_read : ∃ F, readInstance mergedText = .ok F ∧
    F.namedClauses = [[⟨"b", true⟩, ⟨"é", false⟩], [⟨"é", false⟩, ⟨"ω", true⟩, ⟨"b", true⟩]] ∧
    List.Forall₂ ClauseOf ((Text.lines mergedText).filter (¬ Blank ·)) F.namedClauses ∧
    FirstFault clashingText (.contradictoryLiteral "b -c  c --x" "c") := by
  have named : (readInstance mergedText).map Formula.namedClauses =
      .ok [[⟨"b", true⟩, ⟨"é", false⟩], [⟨"é", false⟩, ⟨"ω", true⟩, ⟨"b", true⟩]] := by cbv
  have clash : readInstance clashingText =
      .error (.contradictoryLiteral "b -c  c --x" "c") := by rfl
  have fault := ((readInstance_accepts_grammar clashingText).2.2.1 _).1 clash
  obtain ⟨F, read, same⟩ := map_eq_ok_iff.1 named
  refine ⟨F, read, same, ((readInstance_accepts_grammar mergedText).2.1 F read).1,
    fault.resolve_right ?_⟩
  rintro ⟨other, -⟩
  cases other

end ClausalSearch.NamedFormat
