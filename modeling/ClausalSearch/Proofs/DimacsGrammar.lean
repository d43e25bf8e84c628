import ClausalSearch.Proofs.Gathering
import ClausalSearch.Proofs.Numerals
import ClausalSearch.Proofs.Reading
import ClausalSearch.Proofs.Tokens
import Mathlib

/-!
The grammar of the DIMACS format. The first line that starts with `p` announces the numbers of
variables and of clauses. Each later line that is not skipped holds one clause: numerals of literals
and a final zero, with no value beside its negation. The reader accepts exactly the texts that have
as many clauses as announced, and at least one. The error of any other text is that of its first
faulty line, and within a line that of its first faulty token.
-/
namespace ClausalSearch.Dimacs

variable {F : Formula} {text problem line token : List Char} {quoted : String} {max : Nat}
  {body lines tokens : List (List Char)} {header : Header} {v w : Int} {values : List Int}
  {l : NamedLiteral} {literals clause : List NamedLiteral} {clauses : List (List NamedLiteral)}
  {e : FormatError}

/-- The first line that starts with `p`, and the lines after it. -/
structure Opens (text problem : List Char) (body : List (List Char)) : Prop where
  first : ∃ skipped, (Text.lines text).map Text.trim = skipped ++ problem :: body ∧
    ∀ line ∈ skipped, line.head? ≠ some 'p'
  marked : problem.head? = some 'p'

def Announces (problem : List Char) (header : Header) : Prop :=
  ∃ first second, Text.tokens problem = [['p'], ['c', 'n', 'f'], first, second] ∧
    Text.Natural64 first header.numVariables ∧ Text.Natural64 second header.numClauses

def clauseLines (body : List (List Char)) : List (List Char) :=
  body.filter fun line => line ≠ [] ∧ line.head? ≠ some 'c'

structure Denotes (max : Nat) (token : List Char) (v : Int) : Prop where
  numeral : Text.Integer64 token v
  positive : 1 ≤ v.natAbs
  bounded : v.natAbs ≤ max

structure Values (max : Nat) (tokens : List (List Char)) (values : List Int) : Prop where
  denoted : List.Forall₂ (Denotes max) tokens values
  consistent : ∀ v ∈ values, -v ∉ values

def ClauseLine (max : Nat) (line : List Char) (values : List Int) : Prop :=
  ∃ front, Text.tokens line = front ++ [['0']] ∧ Values max front values

def literalOf (v : Int) : NamedLiteral := ⟨toString v.natAbs, 0 < v⟩

/-- What is wrong with a token that stands behind the values in its line. -/
inductive TokenFault (max : Nat) (quoted : String) (before : List Int) :
    List Char → FormatError → Prop where
  | misspelled {token : List Char} {cause : Text.NumeralError}
      (none : ¬ ∃ v, Text.Integer64 token v) (reason : Text.IntegerFault token cause) :
      TokenFault max quoted before token (.malformedVariable quoted cause)
  | outOfRange {token : List Char} {v : Int} (numeral : Text.Integer64 token v)
      (outside : v.natAbs = 0 ∨ max < v.natAbs) :
      TokenFault max quoted before token (.variableOutOfRange quoted v.natAbs max)
  | contradictory {token : List Char} {v : Int} (denoted : Denotes max token v)
      (opposite : -v ∈ before) :
      TokenFault max quoted before token (.contradictoryLiteral quoted (toString v.natAbs))

inductive LineFault (max : Nat) (line : List Char) : FormatError → Prop where
  | unended (missing : (Text.tokens line).getLast? ≠ some ['0']) :
      LineFault max line (.malformedClause (String.ofList line))
  | token {before after : List (List Char)} {token : List Char} {values : List Int}
      {e : FormatError} (split : Text.tokens line = before ++ token :: after ++ [['0']])
      (valid : Values max before values)
      (fault : TokenFault max (String.ofList line) values token e) : LineFault max line e

def FirstFault (max : Nat) (lines : List (List Char)) (e : FormatError) : Prop :=
  ∃ before line after, lines = before ++ line :: after ∧
    (∀ earlier ∈ before, ∃ values, ClauseLine max earlier values) ∧ LineFault max line e

section Literals

theorem literalOf_injective : Function.Injective literalOf := by
  intro v w same
  rw [literalOf, literalOf, NamedLiteral.mk.injEq, decide_eq_decide] at same
  obtain ⟨name, sign⟩ := same
  have size : v.natAbs = w.natAbs := Nat.repr_inj.1 name
  omega

/-- Zero is its own opposite, but its literal is not. -/
theorem negate_literalOf (positive : 1 ≤ v.natAbs) : (literalOf v).negate = literalOf (-v) := by
  have sign : (!decide (0 < v)) = decide (0 < -v) := by
    rw [← decide_not, decide_eq_decide]
    omega
  rw [literalOf, literalOf, NamedLiteral.negate, Int.natAbs_neg, sign]

theorem consistent_literals_iff (denoted : List.Forall₂ (Denotes max) tokens values) :
    Consistent (values.map literalOf) ↔ ∀ v ∈ values, -v ∉ values := by
  rw [Consistent, List.forall_mem_map]
  refine forall₂_congr fun v member => ?_
  obtain ⟨token, -, denotes⟩ := mem_right_of_forall₂ denoted member
  rw [negate_literalOf denotes.positive, List.mem_map_of_injective literalOf_injective]

theorem eraseDups_literals (values : List Int) :
    (values.map literalOf).eraseDups = values.eraseDups.map literalOf :=
  eraseDups_map literalOf_injective values

theorem readLiteral_eq_ok_iff :
    readLiteral quoted max token = .ok l ↔ ∃ v, Denotes max token v ∧ l = literalOf v := by
  rw [readLiteral, bind_eq_ok]
  simp only [mapError_eq_ok_iff, Text.integer_eq_ok_iff]
  refine exists_congr fun v => ?_
  constructor
  · rintro ⟨numeral, run⟩
    split at run
    · cases run
    · rename_i inside
      cases run
      exact ⟨⟨numeral, by omega, by omega⟩, rfl⟩
  · rintro ⟨⟨numeral, positive, bounded⟩, rfl⟩
    refine ⟨numeral, ?_⟩
    rw [if_neg (by omega)]
    rfl

theorem readLiteral_eq_error_iff (nonempty : token ≠ []) :
    readLiteral quoted max token = .error e ↔
      (∃ cause, Text.IntegerFault token cause ∧ .malformedVariable quoted cause = e) ∨
        ∃ v, Text.Integer64 token v ∧ (v.natAbs = 0 ∨ max < v.natAbs) ∧
          .variableOutOfRange quoted v.natAbs max = e := by
  rw [readLiteral, bind_eq_error]
  simp only [mapError_eq_ok_iff, mapError_eq_error_iff, Text.integer_eq_ok_iff,
    Text.integer_eq_error_iff nonempty]
  refine or_congr_right (exists_congr fun v => and_congr_right fun _ => ?_)
  split
  · rename_i outside
    rw [and_iff_right outside]
    exact ⟨Except.error.inj, congrArg Except.error⟩
  · rename_i inside
    constructor
    · intro failed
      cases failed
    · rintro ⟨outside, -⟩
      exact absurd outside inside

theorem spelled_iff : NamedFormat.Spelled (readLiteral quoted max) tokens literals ↔
    ∃ values, List.Forall₂ (Denotes max) tokens values ∧ literals = values.map literalOf := by
  simp only [NamedFormat.Spelled, readLiteral_eq_ok_iff]
  constructor
  · intro spelled
    induction spelled with
    | nil => exact ⟨[], .nil, rfl⟩
    | cons first rest ih =>
      obtain ⟨v, denotes, rfl⟩ := first
      obtain ⟨values, denoted, rfl⟩ := ih
      exact ⟨v :: values, .cons denotes denoted, rfl⟩
  · rintro ⟨values, denoted, rfl⟩
    rw [List.forall₂_map_right_iff]
    exact denoted.imp fun token v denotes => ⟨v, denotes, rfl⟩

theorem tokenFault_iff (nonempty : token ≠ []) :
    TokenFault max quoted values token e ↔ readLiteral quoted max token = .error e ∨
      ∃ l, readLiteral quoted max token = .ok l ∧ l.negate ∈ values.map literalOf ∧
        e = .contradictoryLiteral quoted l.name := by
  rw [readLiteral_eq_error_iff nonempty]
  simp only [readLiteral_eq_ok_iff]
  constructor
  · intro fault
    cases fault with
    | misspelled none reason => exact .inl (.inl ⟨_, reason, rfl⟩)
    | outOfRange numeral outside => exact .inl (.inr ⟨_, numeral, outside, rfl⟩)
    | contradictory denoted opposite =>
      refine .inr ⟨_, ⟨_, denoted, rfl⟩, ?_, rfl⟩
      rwa [negate_literalOf denoted.positive, List.mem_map_of_injective literalOf_injective]
  · rintro ((⟨cause, reason, rfl⟩ | ⟨v, numeral, outside, rfl⟩) |
      ⟨_, ⟨v, denoted, rfl⟩, opposite, rfl⟩)
    · refine .misspelled ?_ reason
      rintro ⟨v, numeral⟩
      rw [← Text.integer_eq_error_iff nonempty, Text.integer_eq_ok_iff.2 numeral] at reason
      cases reason
    · exact .outOfRange numeral outside
    · rw [negate_literalOf denoted.positive,
        List.mem_map_of_injective literalOf_injective] at opposite
      exact .contradictory denoted opposite

end Literals

section Lines

theorem readClause_of_ended {front : List (List Char)}
    (ended : Text.tokens line = front ++ [['0']]) : readClause max line =
      NamedFormat.gather (readLiteral (String.ofList line) max) (String.ofList line) [] front := by
  rw [readClause, ended, List.getLast?_concat, List.dropLast_concat, if_neg (not_not_intro rfl)]
  rfl

theorem readClause_of_unended (missing : (Text.tokens line).getLast? ≠ some ['0']) :
    readClause max line = .error (.malformedClause (String.ofList line)) := by
  rw [readClause, if_pos missing]
  rfl

theorem ended_or_unended (line : List Char) :
    (∃ front, Text.tokens line = front ++ [['0']]) ∨
      (Text.tokens line).getLast? ≠ some ['0'] := by
  rw [← List.getLast?_eq_some_iff]
  exact em _

theorem readClause_eq_ok_iff : readClause max line = .ok clause ↔
    ∃ values, ClauseLine max line values ∧ clause = values.eraseDups.map literalOf := by
  constructor
  · intro run
    rcases ended_or_unended line with ⟨front, ended⟩ | missing
    · rw [readClause_of_ended ended, NamedFormat.gather_nil_eq_ok_iff] at run
      obtain ⟨literals, spelled, consistent, rfl⟩ := run
      obtain ⟨values, denoted, rfl⟩ := spelled_iff.1 spelled
      have valid : Values max front values :=
        ⟨denoted, (consistent_literals_iff denoted).1 consistent⟩
      exact ⟨values, ⟨front, ended, valid⟩, eraseDups_literals values⟩
    · rw [readClause_of_unended missing] at run
      cases run
  · rintro ⟨values, ⟨front, ended, valid⟩, rfl⟩
    rw [readClause_of_ended ended, NamedFormat.gather_nil_eq_ok_iff]
    exact ⟨values.map literalOf, spelled_iff.2 ⟨values, valid.denoted, rfl⟩,
      (consistent_literals_iff valid.denoted).2 valid.consistent, (eraseDups_literals values).symm⟩

theorem ne_nil_of_split {before after : List (List Char)}
    (split : Text.tokens line = before ++ token :: after ++ [['0']]) : token ≠ [] := by
  have member : token ∈ Text.tokens line := by simp [split]
  exact (Text.solid_of_mem_tokens member).nonempty

theorem readClause_eq_error_iff : readClause max line = .error e ↔ LineFault max line e := by
  constructor
  · intro run
    rcases ended_or_unended line with ⟨front, ended⟩ | missing
    · rw [readClause_of_ended ended, NamedFormat.gather_nil_eq_error_iff] at run
      obtain ⟨before, token, after, literals, rfl, spelled, consistent, fault⟩ := run
      obtain ⟨values, denoted, rfl⟩ := spelled_iff.1 spelled
      exact .token ended ⟨denoted, (consistent_literals_iff denoted).1 consistent⟩
        ((tokenFault_iff (ne_nil_of_split ended)).2 fault)
    · rw [readClause_of_unended missing] at run
      cases run
      exact .unended missing
  · intro fault
    cases fault with
    | unended missing => exact readClause_of_unended missing
    | token split valid fault =>
      rw [readClause_of_ended split, NamedFormat.gather_nil_eq_error_iff]
      exact ⟨_, _, _, _, rfl, spelled_iff.2 ⟨_, valid.denoted, rfl⟩,
        (consistent_literals_iff valid.denoted).2 valid.consistent,
        (tokenFault_iff (ne_nil_of_split split)).1 fault⟩

end Lines

section Texts

theorem dropWhile_eq_cons_iff {α : Type} {p : α → Bool} {xs rest : List α} {x : α} :
    xs.dropWhile p = x :: rest ↔
      ∃ skipped, xs = skipped ++ x :: rest ∧ (∀ y ∈ skipped, p y = true) ∧ p x = false := by
  constructor
  · intro same
    have stop := List.head?_dropWhile_not p xs
    rw [same] at stop
    refine ⟨xs.takeWhile p, ?_, fun y member => List.mem_takeWhile_imp member, stop⟩
    rw [← same, List.takeWhile_append_dropWhile]
  · rintro ⟨skipped, rfl, passed, stop⟩
    rw [List.dropWhile_append_of_pos passed, List.dropWhile_cons_of_neg (by simp [stop])]

theorem opens_iff : Opens text problem body ↔
    ((Text.lines text).map Text.trim).dropWhile (·.head? != some 'p') = problem :: body := by
  rw [dropWhile_eq_cons_iff]
  simp only [bne_iff_ne, bne_eq_false_iff_eq]
  constructor
  · rintro ⟨⟨skipped, split, unmarked⟩, marked⟩
    exact ⟨skipped, split, unmarked, marked⟩
  · rintro ⟨skipped, split, unmarked, marked⟩
    exact ⟨⟨skipped, split, unmarked⟩, marked⟩

theorem readHeader_eq_ok_iff : readHeader problem = .ok header ↔ Announces problem header := by
  constructor
  · intro run
    unfold readHeader at run
    split at run
    · rename_i first second tokens
      split at run
      · rename_i words
        split at run
        · rename_i size count
          cases run
          exact ⟨first, second, by rw [tokens, words.1, words.2],
            Text.natural_eq_ok_iff.1 size, Text.natural_eq_ok_iff.1 count⟩
        · cases run
      · cases run
    · cases run
  · rintro ⟨first, second, tokens, size, count⟩
    rw [← Text.natural_eq_ok_iff] at size count
    simp only [readHeader, tokens, and_self, if_true, size, count]

theorem readHeader_eq_error_iff : readHeader problem = .error e ↔
    e = .malformedProblemLine ∧ ¬ ∃ header, Announces problem header := by
  have failure : Ends (fun _ => True) (· = .malformedProblemLine) (readHeader problem) := by
    unfold readHeader
    split
    · split
      · split <;> trivial
      · trivial
    · trivial
  simp only [← readHeader_eq_ok_iff]
  cases run : readHeader problem with
  | ok header => simp
  | error cause =>
    rw [error_of_ends failure run]
    simp [eq_comm]

def readBody (header : Header) (body : List (List Char)) : Except FormatError Formula := do
  let clauses ← (clauseLines body).mapM (readClause header.numVariables)
  if clauses.length ≠ header.numClauses then
    throw (.clauseCountMismatch header.numClauses clauses.length)
  if clauses.isEmpty then throw .emptyFormula
  NamedFormat.intern clauses

theorem filter_isSkipped (body : List (List Char)) :
    body.filter (!isSkipped ·) = clauseLines body := by
  have same : (!isSkipped ·) =
      fun line : List Char => decide (line ≠ [] ∧ line.head? ≠ some 'c') := by
    funext line
    cases line <;> simp [isSkipped, beq_eq_decide]
  rw [clauseLines, same]

theorem read_of_opens (opens : Opens text problem body) :
    read text = readHeader problem >>= fun header => readBody header body := by
  rw [read, opens_iff.1 opens]
  simp only [filter_isSkipped]
  rfl

theorem read_of_no_problem (none : ¬ ∃ problem body, Opens text problem body) :
    read text = .error .malformedProblemLine := by
  rw [read]
  split
  · rfl
  · rename_i problem body lines
    exact absurd ⟨problem, body, opens_iff.2 lines⟩ none

/-- All lines hold clauses, but not as many as announced, or none is announced. -/
def Miscounted (header : Header) (lines : List (List Char)) (e : FormatError) : Prop :=
  (∀ line ∈ lines, ∃ values, ClauseLine header.numVariables line values) ∧
    (lines.length ≠ header.numClauses ∧ e = .clauseCountMismatch header.numClauses lines.length ∨
      lines.length = header.numClauses ∧ lines = [] ∧ e = .emptyFormula)

theorem readLines_eq_ok_iff : lines.mapM (readClause max) = .ok clauses ↔
    List.Forall₂ (fun line clause => ∃ values, ClauseLine max line values ∧
      clause = values.eraseDups.map literalOf) lines clauses := by
  simp only [mapM_eq_ok_iff, readClause_eq_ok_iff]

theorem readLines_eq_error_iff :
    lines.mapM (readClause max) = .error e ↔ FirstFault max lines e := by
  have accepted (line : List Char) : (∃ clause, readClause max line = .ok clause) ↔
      ∃ values, ClauseLine max line values := by
    simp only [readClause_eq_ok_iff]
    constructor
    · rintro ⟨clause, values, valid, -⟩
      exact ⟨values, valid⟩
    · rintro ⟨values, valid⟩
      exact ⟨_, values, valid, rfl⟩
  simp only [mapM_eq_error_iff, accepted, readClause_eq_error_iff, FirstFault]

theorem readBody_eq_ok_iff : readBody header body = .ok F ↔ ∃ clauses,
    (clauseLines body).mapM (readClause header.numVariables) = .ok clauses ∧
      clauses.length = header.numClauses ∧ clauses ≠ [] ∧ NamedFormat.intern clauses = .ok F := by
  rw [readBody, bind_eq_ok]
  refine exists_congr fun clauses => and_congr_right fun _ => ?_
  by_cases counted : clauses.length = header.numClauses
  · rw [if_neg (not_not_intro counted), and_iff_right counted]
    cases clauses <;> simp [throw, throwThe, MonadExceptOf.throw]
  · rw [if_pos counted]
    simp [counted, throw, throwThe, MonadExceptOf.throw]

theorem readBody_eq_error_iff : readBody header body = .error e ↔
    FirstFault header.numVariables (clauseLines body) e ∨
      Miscounted header (clauseLines body) e := by
  rw [← readLines_eq_error_iff, readBody, bind_eq_error]
  refine or_congr_right ?_
  constructor
  · rintro ⟨clauses, run, failed⟩
    have said := readLines_eq_ok_iff.1 run
    have distinct := of_ends (ends_mapM fun line _ => readClause_ends _ line) run
    have size := said.length_eq
    refine ⟨fun line member => ?_, ?_⟩
    · obtain ⟨clause, -, values, valid, -⟩ := mem_right_of_forall₂ said.flip member
      exact ⟨values, valid⟩
    · rw [size]
      by_cases counted : clauses.length = header.numClauses
      · rw [if_neg (not_not_intro counted)] at failed
        cases clauses with
        | nil =>
          cases failed
          exact .inr ⟨counted, List.length_eq_zero_iff.1 size, rfl⟩
        | cons clause rest =>
          obtain ⟨F, built⟩ := NamedFormat.intern_total distinct
          change NamedFormat.intern (clause :: rest) = .error e at failed
          rw [built] at failed
          cases failed
      · rw [if_pos counted] at failed
        cases failed
        exact .inl ⟨counted, rfl⟩
  · rintro ⟨valid, count⟩
    obtain ⟨clauses, run⟩ : ∃ clauses,
        (clauseLines body).mapM (readClause header.numVariables) = .ok clauses := by
      refine mapM_total fun line member => ?_
      obtain ⟨values, valid⟩ := valid line member
      exact ⟨_, readClause_eq_ok_iff.2 ⟨values, valid, rfl⟩⟩
    have size := mapM_length run
    refine ⟨clauses, run, ?_⟩
    rcases count with ⟨miscounted, rfl⟩ | ⟨counted, empty, rfl⟩
    · rw [if_pos (size ▸ miscounted), size]
      rfl
    · rw [if_neg (not_not_intro (size.trans counted))]
      rw [empty] at size
      rw [List.length_eq_zero_iff.1 size]
      rfl

section Opened

variable (opens : Opens text problem body) (announces : Announces problem header)
include opens announces

theorem read_of_announces : read text = readBody header body := by
  rw [read_of_opens opens, readHeader_eq_ok_iff.2 announces, ok_bind]

theorem read_eq_error_iff : read text = .error e ↔
    FirstFault header.numVariables (clauseLines body) e ∨
      Miscounted header (clauseLines body) e := by
  rw [read_of_announces opens announces, readBody_eq_error_iff]

theorem namedClauses_of_lines (run : read text = .ok F) :
    List.Forall₂ (fun line clause => ∃ values, ClauseLine header.numVariables line values ∧
      clause = values.eraseDups.map literalOf) (clauseLines body) F.namedClauses := by
  rw [read_of_announces opens announces] at run
  obtain ⟨clauses, read, -, -, built⟩ := readBody_eq_ok_iff.1 run
  rw [NamedFormat.namedClauses_of_intern built]
  exact readLines_eq_ok_iff.1 read

theorem read_total_iff : (∃ F, read text = .ok F) ↔
    (∀ line ∈ clauseLines body, ∃ values, ClauseLine header.numVariables line values) ∧
      (clauseLines body).length = header.numClauses ∧ (clauseLines body).length ≠ 0 := by
  constructor
  · rintro ⟨F, run⟩
    rw [read_of_announces opens announces] at run
    obtain ⟨clauses, read, counted, filled, -⟩ := readBody_eq_ok_iff.1 run
    have said := readLines_eq_ok_iff.1 read
    refine ⟨fun line member => ?_, said.length_eq.trans counted, ?_⟩
    · obtain ⟨clause, -, values, valid, -⟩ := mem_right_of_forall₂ said.flip member
      exact ⟨values, valid⟩
    · rw [said.length_eq]
      exact List.length_eq_zero_iff.not.2 filled
  · rintro ⟨valid, counted, filled⟩
    cases run : read text with
    | ok F => exact ⟨F, rfl⟩
    | error e =>
      rcases (read_eq_error_iff opens announces).1 run with
        ⟨before, line, after, lines, -, fault⟩ | ⟨-, ⟨miscounted, -⟩ | ⟨-, empty, -⟩⟩
      · obtain ⟨values, valid⟩ := valid line (by simp [lines])
        have failed := readClause_eq_error_iff.2 fault
        rw [readClause_eq_ok_iff.2 ⟨values, valid, rfl⟩] at failed
        cases failed
      · exact absurd counted miscounted
      · exact absurd (List.length_eq_zero_iff.2 empty) filled

theorem read_ne_malformedProblemLine : read text ≠ .error .malformedProblemLine := by
  rw [Ne, read_eq_error_iff opens announces]
  rintro (⟨before, line, after, -, -, fault⟩ | ⟨-, ⟨-, other⟩ | ⟨-, -, other⟩⟩)
  · cases fault with
    | token ended valid fault => cases fault
  · cases other
  · cases other

end Opened

theorem malformedProblemLine_iff : read text = .error .malformedProblemLine ↔
    ¬ ∃ problem body header, Opens text problem body ∧ Announces problem header := by
  constructor
  · rintro failed ⟨problem, body, header, opens, announces⟩
    exact read_ne_malformedProblemLine opens announces failed
  · intro none
    by_cases opened : ∃ problem body, Opens text problem body
    · obtain ⟨problem, body, opens⟩ := opened
      have unannounced : ¬ ∃ header, Announces problem header := by
        rintro ⟨header, announces⟩
        exact none ⟨problem, body, header, opens, announces⟩
      rw [read_of_opens opens, readHeader_eq_error_iff.2 ⟨rfl, unannounced⟩, error_bind]
    · exact read_of_no_problem opened

end Texts

theorem read_accepts_format (text : List Char) :
    (read text = .error .malformedProblemLine ↔
      ¬ ∃ problem body header, Opens text problem body ∧ Announces problem header) ∧
    ∀ problem body header, Opens text problem body → Announces problem header →
      ((∃ F, read text = .ok F) ↔
        (∀ line ∈ clauseLines body, ∃ values, ClauseLine header.numVariables line values) ∧
          (clauseLines body).length = header.numClauses ∧ (clauseLines body).length ≠ 0) ∧
      (∀ F, read text = .ok F → List.Forall₂ (fun line clause => ∃ values,
        ClauseLine header.numVariables line values ∧ clause = values.eraseDups.map literalOf)
          (clauseLines body) F.namedClauses) ∧
      ∀ e, read text = .error e ↔ FirstFault header.numVariables (clauseLines body) e ∨
        Miscounted header (clauseLines body) e :=
  ⟨malformedProblemLine_iff, fun _ _ _ opens announces => ⟨read_total_iff opens announces,
    fun _ run => namedClauses_of_lines opens announces run,
    fun _ => read_eq_error_iff opens announces⟩⟩

def respelledText : List Char :=
  "c note\n1 2 0\np cnf 12 +2\nc\n 1 01 +1 -12 0\n\n3 -2 0".toList

/-- The number of clauses is wrong, but a line before the end has a fault of its own. -/
def strayText : List Char := "p cnf 3 7\n1 -2 0\n2 5 -2 x 0\n1".toList

theorem respelled_and_stray_read :
    Opens respelledText "p cnf 12 +2".toList
      ["c".toList, "1 01 +1 -12 0".toList, [], "3 -2 0".toList] ∧
    Announces "p cnf 12 +2".toList ⟨12, 2⟩ ∧
    (∃ F, read respelledText = .ok F ∧
      F.namedClauses = [[⟨"1", true⟩, ⟨"12", false⟩], [⟨"3", true⟩, ⟨"2", false⟩]] ∧
      List.Forall₂ (fun line clause => ∃ values, ClauseLine 12 line values ∧
        clause = values.eraseDups.map literalOf)
        ["1 01 +1 -12 0".toList, "3 -2 0".toList] F.namedClauses) ∧
    Opens strayText "p cnf 3 7".toList ["1 -2 0".toList, "2 5 -2 x 0".toList, "1".toList] ∧
    Announces "p cnf 3 7".toList ⟨3, 7⟩ ∧
    FirstFault 3 ["1 -2 0".toList, "2 5 -2 x 0".toList, "1".toList]
      (.variableOutOfRange "2 5 -2 x 0" 5 3) := by
  have opened : Opens respelledText "p cnf 12 +2".toList
      ["c".toList, "1 01 +1 -12 0".toList, [], "3 -2 0".toList] := opens_iff.2 (by decide)
  have announced : Announces "p cnf 12 +2".toList ⟨12, 2⟩ := readHeader_eq_ok_iff.1 (by rfl)
  have strayed : Opens strayText "p cnf 3 7".toList
      ["1 -2 0".toList, "2 5 -2 x 0".toList, "1".toList] := opens_iff.2 (by decide)
  have expected : Announces "p cnf 3 7".toList ⟨3, 7⟩ := readHeader_eq_ok_iff.1 (by rfl)
  have named : (read respelledText).map Formula.namedClauses =
      .ok [[⟨"1", true⟩, ⟨"12", false⟩], [⟨"3", true⟩, ⟨"2", false⟩]] := by cbv
  have failed : read strayText = .error (.variableOutOfRange "2 5 -2 x 0" 5 3) := by rfl
  have fault := (((read_accepts_format strayText).2 _ _ _ strayed expected).2.2 _).1 failed
  refine ⟨opened, announced, ?_, strayed, expected, fault.resolve_right ?_⟩
  · obtain ⟨F, accepted, same⟩ := map_eq_ok_iff.1 named
    exact ⟨F, accepted, same,
      ((read_accepts_format respelledText).2 _ _ _ opened announced).2.1 F accepted⟩
  · rintro ⟨-, ⟨-, other⟩ | ⟨-, -, other⟩⟩
    · cases other
    · cases other

end ClausalSearch.Dimacs
