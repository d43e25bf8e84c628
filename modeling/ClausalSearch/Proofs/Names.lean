import ClausalSearch.Proofs.Reading

/-!
Names that texts hold. A name that is read is not empty, has no blank and starts with no dash, and a
numeral is such a name too. So the text of a literal is a token that shows both its name and its
sign. A text that is read has a clause, and all names of its formulas are of this kind.
-/
namespace ClausalSearch

variable {name : String} {l : NamedLiteral} {token : List Char} {clause : List NamedLiteral}
  {clauses : List (List NamedLiteral)} {F : Formula}

/-- A name that stands as a token and cannot be taken for a negation. -/
structure Readable (name : String) : Prop where
  solid : Text.Solid name.toList
  undashed : name.toList.head? ≠ some '-'

instance : Decidable (Readable name) :=
  decidable_of_iff (Text.Solid name.toList ∧ name.toList.head? ≠ some '-')
    ⟨fun both => ⟨both.1, both.2⟩, fun readable => ⟨readable.solid, readable.undashed⟩⟩

namespace NamedLiteral

theorem ofName_of_readable (readable : Readable name) (positive : Bool) :
    ofName positive name.toList = .ok ⟨name, positive⟩ := by
  have nonempty := readable.solid.nonempty
  have undashed := readable.undashed
  unfold ofName
  split
  · rename_i empty
    exact absurd empty nonempty
  · rename_i rest dashed
    rw [dashed] at undashed
    exact absurd rfl undashed
  · rw [String.ofList_toList]

theorem readable_of_ofName {positive : Bool} (unbroken : ∀ c ∈ token, Text.isBlank c = false)
    (run : ofName positive token = .ok l) : Readable l.name := by
  unfold ofName at run
  split at run
  · cases run
  · cases run
  · rename_i nonempty undashed
    cases run
    refine ⟨⟨?_, ?_⟩, ?_⟩
    · rw [String.toList_ofList]
      exact nonempty
    · rw [String.toList_ofList]
      exact unbroken
    · intro dashed
      rw [String.toList_ofList] at dashed
      obtain ⟨rest, rfl⟩ := List.head?_eq_some_iff.1 dashed
      exact undashed rest rfl

theorem readable_of_parse (solid : Text.Solid token) (run : parse token = .ok l) :
    Readable l.name := by
  unfold parse at run
  split at run
  · rename_i name
    exact readable_of_ofName (fun c member => solid.unbroken c (List.mem_cons_of_mem _ member)) run
  · exact readable_of_ofName solid.unbroken run

theorem toList_text (l : NamedLiteral) :
    l.text.toList = if l.positive then l.name.toList else '-' :: l.name.toList := by
  rw [text, textWith]
  split
  · rfl
  · rw [String.toList_append]
    rfl

theorem parse_text (readable : Readable l.name) : parse l.text.toList = .ok l := by
  obtain ⟨name, positive⟩ := l
  rw [toList_text]
  cases positive with
  | false => exact ofName_of_readable readable false
  | true =>
    have undashed := readable.undashed
    rw [if_pos rfl, parse]
    · exact ofName_of_readable readable true
    · intro rest dashed
      rw [dashed] at undashed
      exact undashed rfl

theorem solid_text (readable : Readable l.name) : Text.Solid l.text.toList := by
  rw [toList_text]
  split
  · exact readable.solid
  · exact ⟨List.cons_ne_nil _ _, List.forall_mem_cons.2 ⟨by decide, readable.solid.unbroken⟩⟩

theorem text_eq_name_iff (undashed : name.toList.head? ≠ some '-') :
    l.text.toList = name.toList ↔ l = ⟨name, true⟩ := by
  obtain ⟨other, positive⟩ := l
  rw [toList_text]
  cases positive with
  | true => simp [String.toList_inj]
  | false =>
    refine iff_of_false (fun same => ?_) (by simp)
    rw [if_neg Bool.false_ne_true] at same
    rw [← same] at undashed
    exact undashed rfl

theorem text_eq_dash_iff (readable : Readable l.name) :
    l.text.toList = '-' :: name.toList ↔ l = ⟨name, false⟩ := by
  obtain ⟨other, positive⟩ := l
  rw [toList_text]
  cases positive with
  | false => simp [String.toList_inj]
  | true =>
    refine iff_of_false (fun same => ?_) (by simp)
    rw [if_pos rfl] at same
    have undashed := readable.undashed
    rw [same] at undashed
    exact undashed rfl

end NamedLiteral

theorem isBlank_of_isDigit {c : Char} (digit : c.isDigit = true) : Text.isBlank c = false := by
  simp only [Char.isDigit, Bool.and_eq_true, decide_eq_true_eq, UInt32.le_iff_toNat_le] at digit
  have low : 48 ≤ c.toNat := digit.1
  have high : c.toNat ≤ 57 := digit.2
  simp only [Text.isBlank, Text.blankRanges, List.any_cons, List.any_nil, Bool.or_eq_false_iff,
    Bool.and_eq_false_iff, decide_eq_false_iff_not, and_true]
  omega

theorem isDigit_of_mem_numeral {n : Nat} {c : Char} (member : c ∈ (toString n).toList) :
    c.isDigit = true := by
  rw [Nat.toString_eq_repr, Nat.toList_repr] at member
  exact Nat.isDigit_of_mem_toDigits (by decide) (by decide) member

theorem readable_numeral (n : Nat) : Readable (toString n) := by
  refine ⟨⟨?_, fun c member => isBlank_of_isDigit (isDigit_of_mem_numeral member)⟩, ?_⟩
  · rw [Nat.toString_eq_repr, Nat.toList_repr]
    exact Nat.toDigits_ne_nil
  · intro dashed
    exact absurd (isDigit_of_mem_numeral (List.mem_of_mem_head? dashed)) (by decide)

structure PrintableClauses (clauses : List (List NamedLiteral)) : Prop where
  nonempty : clauses ≠ []
  readable : ∀ clause ∈ clauses, ∀ l ∈ clause, Readable l.name

structure Formula.Printable (F : Formula) : Prop where
  nonempty : F.clauses ≠ []
  readable : ∀ name ∈ F.names, Readable name

theorem printable_of_ofNamed (printable : PrintableClauses clauses)
    (run : Formula.ofNamed clauses = .ok F) : F.Printable := by
  constructor
  · intro empty
    have named := ofNamed_namedClauses run
    rw [Formula.namedClauses, empty] at named
    exact printable.nonempty named.symm
  · intro name member
    obtain ⟨clause, inside, l, among, rfl⟩ := (mem_names_of_ofNamed run).1 member
    exact printable.readable clause inside l among

namespace NamedFormat

theorem addLiteral_readable {quoted : String} (known : ∀ k ∈ clause, Readable k.name)
    (new : Readable l.name) :
    Ends (fun after => ∀ k ∈ after, Readable k.name) (fun _ => True)
      (addLiteral quoted clause l) := by
  unfold addLiteral
  split
  · exact List.forall_mem_append.2 ⟨known, List.forall_mem_singleton.2 new⟩
  · split
    · exact known
    · trivial

def readToken (line : List Char) (number : Nat) (clause : List NamedLiteral) (token : List Char) :
    Except FormatError (List NamedLiteral) :=
  match NamedLiteral.parse token with
  | .ok l => addLiteral (String.ofList line) clause l
  | .error cause => .error (.malformedLiteral number (String.ofList line) cause)

theorem readClause_eq (line : List Char) (number : Nat) :
    readClause line number = (Text.tokens line).foldlM (readToken line number) [] := rfl

theorem readClause_readable (line : List Char) (number : Nat) :
    Ends (fun clause => ∀ l ∈ clause, Readable l.name) (fun _ => True)
      (readClause line number) := by
  rw [readClause_eq]
  refine ends_foldlM (List.forall_mem_nil _) ?_
  intro clause token member known
  unfold readToken
  split
  · rename_i l parsed
    have solid := Text.solid_of_mem_tokens member
    exact addLiteral_readable known (NamedLiteral.readable_of_parse solid parsed)
  · trivial

theorem readClauses_readable (lines : List (List Char × Nat)) :
    Ends (fun clauses => ∀ clause ∈ clauses, ∀ l ∈ clause, Readable l.name) (fun _ => True)
      (readClauses lines) :=
  ends_mapM fun line _ => readClause_readable line.1 line.2

theorem intern_printable (printable : PrintableClauses clauses) :
    Ends Formula.Printable (fun _ => True) (intern clauses) := by
  rw [intern]
  cases run : Formula.ofNamed clauses with
  | error fault => trivial
  | ok F => exact printable_of_ofNamed printable run

theorem readInstance_printable (text : List Char) :
    Ends Formula.Printable (fun _ => True) (readInstance text) := by
  apply ends_bind (readClauses_readable _)
  intro clauses readable
  split
  · trivial
  · rename_i nonempty
    exact intern_printable ⟨by simpa using nonempty, readable⟩

theorem block_printable {text : List Char} {block : List (List Char × Nat)}
    (member : block ∈ blocks text) :
    Ends PrintableClauses (fun _ => True) (readClauses block) := by
  have filled : block ≠ [] := by simpa using (List.mem_filter.1 member).2
  cases run : readClauses block with
  | error e => trivial
  | ok clauses =>
    refine ⟨fun empty => filled ?_, of_ends (readClauses_readable block) run⟩
    rw [← List.length_eq_zero_iff, ← mapM_length run, empty, List.length_nil]

theorem readBatch_printable (text : List Char) :
    Ends (fun formulas => ∀ F ∈ formulas, F.Printable) (fun _ => True) (readBatch text) := by
  rw [readBatch_eq]
  apply ends_bind (ends_mapM fun block member => block_printable member)
  intro instances printable
  split
  · trivial
  · exact ends_mapM fun clauses member => intern_printable (printable clauses member)

end NamedFormat

namespace Dimacs

theorem readLiteral_readable (quoted : String) (max : Nat) (token : List Char) :
    Ends (fun l => Readable l.name) (fun _ => True) (readLiteral quoted max token) := by
  unfold readLiteral
  cases Text.integer token with
  | error cause => trivial
  | ok value =>
    simp only [Except.mapError, ok_bind]
    split
    · trivial
    · exact readable_numeral _

theorem readClause_readable (max : Nat) (line : List Char) :
    Ends (fun clause => ∀ l ∈ clause, Readable l.name) (fun _ => True) (readClause max line) := by
  rw [readClause]
  split
  · trivial
  · refine ends_foldlM (List.forall_mem_nil _) ?_
    intro clause token _ known
    exact ends_bind (readLiteral_readable _ max token) fun l new =>
      NamedFormat.addLiteral_readable known new

theorem read_printable (text : List Char) :
    Ends Formula.Printable (fun _ => True) (read text) := by
  rw [read]
  split
  · trivial
  · rename_i problem body _
    apply ends_bind (ends_any (readHeader problem))
    intro header _
    apply ends_bind (ends_mapM fun line _ => readClause_readable header.numVariables line)
    intro clauses readable
    split
    · split <;> trivial
    · split
      · trivial
      · rename_i nonempty counted
        exact NamedFormat.intern_printable ⟨by simpa using nonempty, readable⟩

end Dimacs

end ClausalSearch
