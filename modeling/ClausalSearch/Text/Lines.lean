/-!
Blanks, lines and tokens. A line ends at a line feed, and a carriage return right before it belongs
to the line end; a last piece without a line feed is kept as it stands. Tokens are the maximal runs
of characters that are not blank, and a blank is what Unicode calls white space.
-/
namespace ClausalSearch.Text

def blankRanges : List (Nat × Nat) :=
  [(0x9, 0xD), (0x20, 0x20), (0x85, 0x85), (0xA0, 0xA0), (0x1680, 0x1680), (0x2000, 0x200A),
   (0x2028, 0x2029), (0x202F, 0x202F), (0x205F, 0x205F), (0x3000, 0x3000)]

def isBlank (c : Char) : Bool :=
  blankRanges.any fun r => r.1 ≤ c.toNat && c.toNat ≤ r.2

def chomp (line : List Char) : List Char :=
  if line.getLast? = some '\r' then line.dropLast else line

def lines (text : List Char) : List (List Char) :=
  let pieces := text.splitOnP (· == '\n')
  pieces.dropLast.map chomp ++ pieces.getLast?.toList.filter (!·.isEmpty)

def tokens (text : List Char) : List (List Char) :=
  (text.splitOnP isBlank).filter (!·.isEmpty)

def trim (text : List Char) : List Char :=
  ((text.dropWhile isBlank).reverse.dropWhile isBlank).reverse

theorem lines_append {line rest : List Char} (inside : ∀ c ∈ line, (c == '\n') = false) :
    lines (line ++ '\n' :: rest) = chomp line :: lines rest := by
  have nonempty := List.splitOnP_ne_nil (· == '\n') rest
  simp only [lines, List.splitOnP_append_cons_of_forall_mem inside '\n' (by rfl) rest]
  rw [List.dropLast_cons_of_ne_nil nonempty, List.getLast?_cons]
  simp [List.getLast?_eq_some_getLast nonempty]

theorem tokens_append {c : Char} (blank : isBlank c = true) (xs ys : List Char) :
    tokens (xs ++ c :: ys) = tokens xs ++ tokens ys := by
  rw [tokens, List.splitOnP_append_cons xs ys blank, List.filter_append]
  rfl

def numberedLines (text : List Char) : List (List Char × Nat) := (lines text).zipIdx 1

end ClausalSearch.Text
