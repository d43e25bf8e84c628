import ClausalSearch.Text.Lines
import Mathlib.Data.List.Basic

/-!
Tokens and lines. A token is not empty and has no blank, and such words joined by single spaces are
the tokens of what results. Line ends belong to no token, so lines that are joined again have the
tokens that they had, one line after the other.
-/
namespace ClausalSearch.Text

variable {text token line : List Char}

theorem not_of_mem_splitOnP {α : Type} {p : α → Bool} {xs piece : List α}
    (member : piece ∈ xs.splitOnP p) : ∀ x ∈ piece, p x = false := by
  induction xs generalizing piece with
  | nil =>
    rw [List.splitOnP_nil, List.mem_singleton] at member
    simp [member]
  | cons y ys ih =>
    rw [List.splitOnP_cons_eq_if_modifyHead] at member
    split at member
    · rcases List.mem_cons.1 member with rfl | later
      · exact List.forall_mem_nil _
      · exact ih later
    · rename_i kept
      obtain ⟨first, rest, split⟩ := List.exists_cons_of_ne_nil (List.splitOnP_ne_nil p ys)
      rw [split] at member ih
      rcases List.mem_cons.1 member with rfl | later
      · exact List.forall_mem_cons.2 ⟨by simpa using kept, ih (List.mem_cons_self ..)⟩
      · exact ih (List.mem_cons_of_mem first later)

theorem flatten_splitOnP {α : Type} (p : α → Bool) (xs : List α) :
    (xs.splitOnP p).flatten = xs.filter (!p ·) := by
  induction xs with
  | nil => rfl
  | cons x xs ih =>
    rw [List.splitOnP_cons_eq_if_modifyHead]
    by_cases cut : p x = true
    · simp [cut, ih]
    · obtain ⟨first, rest, split⟩ := List.exists_cons_of_ne_nil (List.splitOnP_ne_nil p xs)
      rw [split] at ih
      simp [cut, split, ← ih]

theorem around_of_mem_splitOnP {α : Type} {p : α → Bool} (front : List α) {xs piece : List α}
    (clean : ∀ x ∈ front, p x = false) (member : piece ∈ (front ++ xs).splitOnP p) :
    ∃ before after, front ++ xs = before ++ piece ++ after ∧
      (∀ x ∈ before.getLast?, p x = true) ∧ ∀ x ∈ after.head?, p x = true := by
  -- the front holds what was passed since the last split, so it may begin the piece
  induction xs generalizing front with
  | nil =>
    rw [List.append_nil, List.splitOnP_eq_singleton clean, List.mem_singleton] at member
    exact ⟨[], [], by simp [member]⟩
  | cons x xs ih =>
    by_cases cut : p x = true
    · rw [List.splitOnP_append_cons_of_forall_mem clean x cut] at member
      rcases List.mem_cons.1 member with rfl | later
      · exact ⟨[], x :: xs, by simp [cut]⟩
      · obtain ⟨before, after, same, low, high⟩ := ih [] (List.forall_mem_nil _) later
        rw [List.nil_append] at same
        refine ⟨front ++ x :: before, after, by simp [same], ?_, high⟩
        intro y last
        rw [List.getLast?_append, List.getLast?_cons, Option.some_or, Option.mem_some_iff] at last
        subst last
        cases ends : before.getLast? with
        | none => exact cut
        | some z => exact low z ends
    · have clean : ∀ y ∈ front ++ [x], p y = false :=
        List.forall_mem_append.2 ⟨clean, List.forall_mem_singleton.2 (by simpa using cut)⟩
      rw [← List.singleton_append, ← List.append_assoc] at member ⊢
      exact ih (front ++ [x]) clean member

theorem mem_splitOnP_of_around {α : Type} {p : α → Bool} {before piece after : List α}
    (clean : ∀ x ∈ piece, p x = false) (low : ∀ x ∈ before.getLast?, p x = true)
    (high : ∀ x ∈ after.head?, p x = true) : piece ∈ (before ++ piece ++ after).splitOnP p := by
  have first : piece ∈ (piece ++ after).splitOnP p := by
    cases after with
    | nil =>
      rw [List.append_nil, List.splitOnP_eq_singleton clean]
      exact List.mem_singleton_self piece
    | cons x after =>
      rw [List.splitOnP_append_cons_of_forall_mem clean x (high x rfl)]
      exact List.mem_cons_self ..
  rcases List.eq_nil_or_concat before with rfl | ⟨front, x, rfl⟩
  · exact first
  · have cut := low x (by simp)
    rw [List.concat_eq_append, List.append_assoc, List.append_assoc, List.singleton_append,
      List.splitOnP_append_cons front _ cut]
    exact List.mem_append_right _ first

theorem splitOnP_map {α β : Type} {p : β → Bool} {f : α → β} (xs : List α) :
    (xs.map f).splitOnP p = (xs.splitOnP (p ∘ f)).map (List.map f) := by
  induction xs with
  | nil => rfl
  | cons x xs ih =>
    rw [List.map_cons, List.splitOnP_cons_eq_if_modifyHead, List.splitOnP_cons_eq_if_modifyHead, ih]
    by_cases cut : p (f x) = true
    · simp [cut]
    · obtain ⟨first, rest, split⟩ := List.exists_cons_of_ne_nil (List.splitOnP_ne_nil (p ∘ f) xs)
      simp [cut, split]

/-- What a token is: not empty and without blanks. -/
structure Solid (token : List Char) : Prop where
  nonempty : token ≠ []
  unbroken : ∀ c ∈ token, isBlank c = false

instance : Decidable (Solid token) :=
  decidable_of_iff (token ≠ [] ∧ token.any isBlank = false)
    ⟨fun both => ⟨both.1, by simpa using both.2⟩,
      fun solid => ⟨solid.nonempty, by simpa using solid.unbroken⟩⟩

theorem solid_of_mem_tokens (member : token ∈ tokens text) : Solid token := by
  obtain ⟨piece, nonempty⟩ := List.mem_filter.1 member
  exact ⟨by simpa using nonempty, fun c inside => not_of_mem_splitOnP piece c inside⟩

theorem tokens_of_solid (solid : Solid token) : tokens token = [token] := by
  rw [tokens, List.splitOnP_eq_singleton solid.unbroken]
  simp [solid.nonempty]

theorem tokens_intercalate {words : List (List Char)} (solid : ∀ word ∈ words, Solid word) :
    tokens ([' '].intercalate words) = words := by
  induction words with
  | nil => rfl
  | cons word rest ih =>
    obtain ⟨first, later⟩ := List.forall_mem_cons.1 solid
    cases rest with
    | nil => rw [List.intercalate_singleton, tokens_of_solid first]
    | cons next rest =>
      rw [List.intercalate_cons_cons, List.append_assoc, List.singleton_append,
        tokens_append (by decide), tokens_of_solid first, ih later]
      rfl

theorem mem_intercalate {c mark : Char} {words : List (List Char)}
    (member : c ∈ [mark].intercalate words) : c = mark ∨ ∃ word ∈ words, c ∈ word := by
  induction words with
  | nil => cases member
  | cons word rest ih =>
    cases rest with
    | nil =>
      rw [List.intercalate_singleton] at member
      exact .inr ⟨word, List.mem_cons_self .., member⟩
    | cons next rest =>
      rw [List.intercalate_cons_cons, List.mem_append, List.mem_append,
        List.mem_singleton] at member
      rcases member with (inside | same) | later
      · exact .inr ⟨word, List.mem_cons_self .., inside⟩
      · exact .inl same
      · rcases ih later with same | ⟨found, among, inside⟩
        · exact .inl same
        · exact .inr ⟨found, List.mem_cons_of_mem word among, inside⟩

theorem tokens_cons_blank {c : Char} (blank : isBlank c = true) (rest : List Char) :
    tokens (c :: rest) = tokens rest := by
  have skipped := tokens_append blank [] rest
  rw [List.nil_append] at skipped
  rw [skipped]
  simp [tokens]

theorem tokens_eq_nil_iff : tokens line = [] ↔ line.all isBlank := by
  induction line with
  | nil => simp [tokens]
  | cons c rest ih =>
    by_cases blank : isBlank c = true
    · rw [tokens_cons_blank blank, ih, List.all_cons, blank, Bool.true_and]
    · obtain ⟨first, pieces, split⟩ :=
        List.exists_cons_of_ne_nil (List.splitOnP_ne_nil isBlank rest)
      simp [tokens, List.splitOnP_cons_eq_if_modifyHead, blank, split]

theorem tokens_chomp (line : List Char) : tokens (chomp line) = tokens line := by
  rw [chomp]
  split
  · rename_i ends
    obtain ⟨front, rfl⟩ := List.getLast?_eq_some_iff.1 ends
    rw [List.dropLast_concat, tokens_append (by decide)]
    simp [tokens]
  · rfl

theorem mem_of_mem_chomp {c : Char} (member : c ∈ chomp line) : c ∈ line := by
  rw [chomp] at member
  split at member
  · exact List.dropLast_subset line member
  · exact member

theorem not_mem_of_mem_lines (member : line ∈ lines text) : '\n' ∉ line := by
  have single : ∀ piece ∈ text.splitOnP (· == '\n'), '\n' ∉ piece := by
    intro piece listed feed
    have other := not_of_mem_splitOnP listed '\n' feed
    simp at other
  intro feed
  rcases List.mem_append.1 member with ended | last
  · obtain ⟨piece, listed, rfl⟩ := List.mem_map.1 ended
    exact single piece (List.dropLast_subset _ listed) (mem_of_mem_chomp feed)
  · have listed := List.mem_of_getLast? (Option.mem_toList.1 (List.mem_filter.1 last).1)
    exact single line listed feed

theorem lines_of_single (nonempty : line ≠ []) (single : '\n' ∉ line) : lines line = [line] := by
  have piece : line.splitOnP (· == '\n') = [line] := List.splitOn_eq_singleton single
  simp [lines, piece, nonempty]

theorem splitOn_of_ended {parts : List (List Char)} (single : ∀ part ∈ parts, '\n' ∉ part) :
    (parts.flatMap (· ++ ['\n'])).splitOn '\n' = parts ++ [[]] := by
  induction parts with
  | nil => rfl
  | cons part rest ih =>
    obtain ⟨first, later⟩ := List.forall_mem_cons.1 single
    have inside : ∀ c ∈ part, (c == '\n') = false := fun c member =>
      beq_eq_false_iff_ne.2 fun same => first (same ▸ member)
    rw [List.flatMap_cons, List.append_assoc, List.singleton_append, List.splitOn_eq_splitOnP,
      List.splitOnP_append_cons_of_forall_mem inside '\n' (by rfl), ← List.splitOn_eq_splitOnP,
      ih later, List.cons_append]

/-- Lines joined by line feeds may lose a carriage return each, which is no part of a token. -/
theorem tokens_of_joined {parts : List (List Char)} (nonempty : parts ≠ [])
    (single : ∀ part ∈ parts, '\n' ∉ part) (filled : ∀ part ∈ parts, part ≠ []) :
    (lines (['\n'].intercalate parts)).map tokens = parts.map tokens := by
  have pieces : (['\n'].intercalate parts).splitOnP (· == '\n') = parts :=
    List.splitOn_intercalate '\n' single nonempty
  have last := filled _ (List.getLast_mem nonempty)
  have kept : parts.getLast?.toList.filter (!·.isEmpty) = [parts.getLast nonempty] := by
    simp [List.getLast?_eq_some_getLast nonempty, last]
  have same : tokens ∘ chomp = tokens := funext tokens_chomp
  rw [lines, pieces, kept, List.map_append, List.map_map, same, ← List.map_append,
    List.dropLast_concat_getLast]

end ClausalSearch.Text
