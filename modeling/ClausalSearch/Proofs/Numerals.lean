import ClausalSearch.Text.Numeral
import ClausalSearch.Proofs.Fallible

/-!
Decimal numerals. A numeral is a run of digits, with or without a sign, and leading zeros do not
count. Reading gives the value of every numeral in the range of 64 bits. Every other text fails at
its first character that is no digit or that makes the value too large.
-/
namespace ClausalSearch.Text

variable {digits token : List Char} {limit value n : Nat} {v : Int} {overflow e : NumeralError}

structure Digits (digits : List Char) : Prop where
  nonempty : digits ≠ []
  decimal : ∀ c ∈ digits, c.isDigit = true

def decimalValue (digits : List Char) : Nat := Nat.ofDigitChars 10 digits 0

inductive NaturalNumeral : List Char → Nat → Prop where
  | plain {digits : List Char} (run : Digits digits) : NaturalNumeral digits (decimalValue digits)
  | plus {digits : List Char} (run : Digits digits) :
      NaturalNumeral ('+' :: digits) (decimalValue digits)

inductive IntegerNumeral : List Char → Int → Prop where
  | plain {digits : List Char} (run : Digits digits) : IntegerNumeral digits (decimalValue digits)
  | plus {digits : List Char} (run : Digits digits) :
      IntegerNumeral ('+' :: digits) (decimalValue digits)
  | minus {digits : List Char} (run : Digits digits) :
      IntegerNumeral ('-' :: digits) (-decimalValue digits)

structure Natural64 (token : List Char) (n : Nat) : Prop where
  numeral : NaturalNumeral token n
  bounded : n ≤ 18446744073709551615

structure Integer64 (token : List Char) (v : Int) : Prop where
  numeral : IntegerNumeral token v
  lower : -9223372036854775808 ≤ v
  upper : v ≤ 9223372036854775807

/-- The first place at which the characters behind a sign leave the numbers up to the limit. -/
inductive Breaks (limit : Nat) (overflow : NumeralError) : List Char → NumeralError → Prop where
  | nothing : Breaks limit overflow [] .invalidDigit
  | letter {front rest : List Char} {c : Char} (decimal : ∀ d ∈ front, d.isDigit = true)
      (inside : decimalValue front ≤ limit) (other : c.isDigit = false) :
      Breaks limit overflow (front ++ c :: rest) .invalidDigit
  | above {front rest : List Char} {c : Char} (decimal : ∀ d ∈ front ++ [c], d.isDigit = true)
      (inside : decimalValue front ≤ limit) (above : limit < decimalValue (front ++ [c])) :
      Breaks limit overflow (front ++ c :: rest) overflow

inductive IntegerFault : List Char → NumeralError → Prop where
  | plain {c : Char} {rest : List Char} {e : NumeralError} (unsigned : c ≠ '+' ∧ c ≠ '-')
      (breaks : Breaks 9223372036854775807 .tooLarge (c :: rest) e) : IntegerFault (c :: rest) e
  | plus {digits : List Char} {e : NumeralError}
      (breaks : Breaks 9223372036854775807 .tooLarge digits e) : IntegerFault ('+' :: digits) e
  | minus {digits : List Char} {e : NumeralError}
      (breaks : Breaks 9223372036854775808 .tooSmall digits e) : IntegerFault ('-' :: digits) e

theorem le_ofDigitChars (digits : List Char) (value : Nat) :
    value ≤ Nat.ofDigitChars 10 digits value := by
  induction digits generalizing value with
  | nil => simp
  | cons c rest ih =>
    rw [Nat.ofDigitChars_cons]
    have later := ih (10 * value + (c.toNat - '0'.toNat))
    omega

/-- Once the value is too large it stays so, which makes the limit a condition on the result. -/
theorem appendDigits_eq_ok_iff (inside : value ≤ limit) :
    appendDigits limit overflow value digits = .ok n ↔
      (∀ c ∈ digits, c.isDigit = true) ∧ n = Nat.ofDigitChars 10 digits value ∧ n ≤ limit := by
  induction digits generalizing value with
  | nil =>
    simp only [appendDigits, Except.ok.injEq, Nat.ofDigitChars_nil]
    constructor
    · rintro rfl
      exact ⟨List.forall_mem_nil _, rfl, inside⟩
    · rintro ⟨-, rfl, -⟩
      rfl
  | cons c rest ih =>
    rw [appendDigits, digit?, Nat.ofDigitChars_cons, List.forall_mem_cons]
    by_cases digit : c.isDigit = true
    · simp only [digit, if_true, true_and]
      split
      · rename_i above
        have grows := le_ofDigitChars rest (10 * value + (c.toNat - '0'.toNat))
        constructor
        · intro failed
          cases failed
        · rintro ⟨-, rfl, bounded⟩
          omega
      · rename_i below
        exact ih (Nat.le_of_not_lt below)
    · simp [digit]

theorem magnitude_eq_ok_iff : magnitude limit overflow digits = .ok n ↔
    Digits digits ∧ n = decimalValue digits ∧ n ≤ limit := by
  unfold magnitude
  split
  · constructor
    · intro failed
      cases failed
    · rintro ⟨run, -⟩
      exact absurd rfl run.nonempty
  · rename_i nonempty
    rw [appendDigits_eq_ok_iff (Nat.zero_le limit)]
    constructor
    · rintro ⟨decimal, same, bounded⟩
      exact ⟨⟨nonempty, decimal⟩, same, bounded⟩
    · rintro ⟨run, same, bounded⟩
      exact ⟨run.decimal, same, bounded⟩

theorem appendDigits_eq_error_iff (inside : value ≤ limit) :
    appendDigits limit overflow value digits = .error e ↔ ∃ front c rest,
      digits = front ++ c :: rest ∧ (∀ d ∈ front, d.isDigit = true) ∧
      Nat.ofDigitChars 10 front value ≤ limit ∧
      (c.isDigit = false ∧ e = .invalidDigit ∨
        c.isDigit = true ∧ limit < Nat.ofDigitChars 10 (front ++ [c]) value ∧ e = overflow) := by
  induction digits generalizing value with
  | nil => simp [appendDigits]
  | cons c rest ih =>
    rw [appendDigits, digit?]
    constructor
    · intro failed
      by_cases digit : c.isDigit = true
      · simp only [digit, if_true] at failed
        split at failed
        · rename_i above
          cases failed
          exact ⟨[], c, rest, rfl, List.forall_mem_nil _, inside, .inr ⟨digit, above, rfl⟩⟩
        · rename_i below
          obtain ⟨front, d, after, rfl, decimal, bounded, fault⟩ :=
            (ih (Nat.le_of_not_lt below)).1 failed
          exact ⟨c :: front, d, after, rfl, List.forall_mem_cons.2 ⟨digit, decimal⟩, bounded, fault⟩
      · simp only [digit] at failed
        cases failed
        exact ⟨[], c, rest, rfl, List.forall_mem_nil _, inside, .inl ⟨by simpa using digit, rfl⟩⟩
    · rintro ⟨front, d, after, split, decimal, bounded, fault⟩
      cases front with
      | nil =>
        obtain ⟨rfl, rfl⟩ := List.cons.inj split
        rcases fault with ⟨other, rfl⟩ | ⟨digit, above, rfl⟩
        · simp [other]
        · simp only [digit, if_true]
          exact if_pos above
      | cons b front =>
        obtain ⟨rfl, rfl⟩ := List.cons.inj split
        obtain ⟨digit, decimal⟩ := List.forall_mem_cons.1 decimal
        rw [Nat.ofDigitChars_cons] at bounded
        -- the value only grows, so it was within the limit before
        have below := Nat.le_trans (le_ofDigitChars front _) bounded
        simp only [digit, if_true]
        rw [if_neg (Nat.not_lt.2 below), ih below]
        exact ⟨front, d, after, rfl, decimal, bounded, fault⟩

theorem magnitude_eq_error_iff :
    magnitude limit overflow digits = .error e ↔ Breaks limit overflow digits e := by
  unfold magnitude
  split
  · constructor
    · intro failed
      cases failed
      exact .nothing
    · intro breaks
      generalize same : [] = digits at breaks
      cases breaks with
      | nothing => rfl
      | letter => simp at same
      | above => simp at same
  · rename_i nonempty
    rw [appendDigits_eq_error_iff (Nat.zero_le limit)]
    constructor
    · rintro ⟨front, c, rest, rfl, decimal, inside, ⟨other, rfl⟩ | ⟨digit, above, rfl⟩⟩
      · exact .letter decimal inside other
      · exact .above (List.forall_mem_append.2 ⟨decimal, List.forall_mem_singleton.2 digit⟩)
          inside above
    · intro breaks
      cases breaks with
      | nothing => exact absurd rfl nonempty
      | letter decimal inside other =>
        exact ⟨_, _, _, rfl, decimal, inside, .inl ⟨other, rfl⟩⟩
      | above decimal inside above =>
        obtain ⟨decimal, digit⟩ := List.forall_mem_append.1 decimal
        exact ⟨_, _, _, rfl, decimal, inside,
          .inr ⟨digit _ (List.mem_singleton_self _), above, rfl⟩⟩

theorem natural_eq_ok_iff : natural token = .ok n ↔ Natural64 token n := by
  unfold natural
  split
  · constructor
    · intro failed
      cases failed
    · rintro ⟨numeral, -⟩
      cases numeral with
      | plain run => exact absurd rfl run.nonempty
  · rename_i digits
    rw [magnitude_eq_ok_iff]
    constructor
    · rintro ⟨run, rfl, bounded⟩
      exact ⟨.plus run, bounded⟩
    · rintro ⟨numeral, bounded⟩
      cases numeral with
      | plain run => exact absurd (run.decimal '+' (List.mem_cons_self ..)) (by decide)
      | plus run => exact ⟨run, rfl, bounded⟩
  · rename_i unsigned
    rw [magnitude_eq_ok_iff]
    constructor
    · rintro ⟨run, rfl, bounded⟩
      exact ⟨.plain run, bounded⟩
    · rintro ⟨numeral, bounded⟩
      cases numeral with
      | plain run => exact ⟨run, rfl, bounded⟩
      | plus run => exact absurd rfl (unsigned _)

section Signed

variable {sign : Int → Int}

def signed (sign : Int → Int) (limit : Nat) (overflow : NumeralError) (digits : List Char) :
    Except NumeralError Int :=
  (magnitude limit overflow digits >>= fun n => pure (n : Int)).map sign

theorem integer_minus (digits : List Char) :
    integer ('-' :: digits) = signed (- ·) 9223372036854775808 .tooSmall digits := rfl

theorem integer_plus (digits : List Char) :
    integer ('+' :: digits) = signed id 9223372036854775807 .tooLarge digits := rfl

theorem integer_unsigned {c : Char} (unsigned : c ≠ '+' ∧ c ≠ '-') (rest : List Char) :
    integer (c :: rest) = signed id 9223372036854775807 .tooLarge (c :: rest) := by
  unfold integer
  split
  · rename_i empty
    cases empty
  · rename_i same
    exact absurd (List.cons.inj same).1 unsigned.2
  · rename_i same
    exact absurd (List.cons.inj same).1 unsigned.1
  · rfl

theorem signed_eq_ok_iff : signed sign limit overflow digits = .ok v ↔
    Digits digits ∧ decimalValue digits ≤ limit ∧ v = sign (decimalValue digits) := by
  simp only [signed, map_eq_ok_iff, bind_eq_ok, pure_eq_ok_iff, magnitude_eq_ok_iff]
  constructor
  · rintro ⟨_, ⟨n, ⟨run, rfl, bounded⟩, rfl⟩, rfl⟩
    exact ⟨run, bounded, rfl⟩
  · rintro ⟨run, bounded, rfl⟩
    exact ⟨_, ⟨_, ⟨run, rfl, bounded⟩, rfl⟩, rfl⟩

theorem signed_eq_error_iff :
    signed sign limit overflow digits = .error e ↔ Breaks limit overflow digits e := by
  simp only [signed, map_eq_error_iff, bind_eq_error, pure_ne_error, and_false, exists_false,
    or_false, magnitude_eq_error_iff]

end Signed

theorem sign_cases (token : List Char) : token = [] ∨ (∃ digits, token = '-' :: digits) ∨
    (∃ digits, token = '+' :: digits) ∨ ∃ c rest, token = c :: rest ∧ c ≠ '+' ∧ c ≠ '-' := by
  cases token with
  | nil => exact .inl rfl
  | cons c rest =>
    by_cases minus : c = '-'
    · exact .inr (.inl ⟨rest, by rw [minus]⟩)
    · by_cases plus : c = '+'
      · exact .inr (.inr (.inl ⟨rest, by rw [plus]⟩))
      · exact .inr (.inr (.inr ⟨c, rest, rfl, plus, minus⟩))

theorem integer_eq_ok_iff : integer token = .ok v ↔ Integer64 token v := by
  rcases sign_cases token with rfl | ⟨digits, rfl⟩ | ⟨digits, rfl⟩ | ⟨c, rest, rfl, unsigned⟩
  · constructor
    · intro failed
      cases failed
    · rintro ⟨numeral, -, -⟩
      cases numeral with
      | plain run => exact absurd rfl run.nonempty
  · rw [integer_minus, signed_eq_ok_iff]
    constructor
    · rintro ⟨run, bounded, rfl⟩
      exact ⟨.minus run, by omega, by omega⟩
    · rintro ⟨numeral, lower, upper⟩
      cases numeral with
      | plain run => exact absurd (run.decimal '-' (List.mem_cons_self ..)) (by decide)
      | minus run => exact ⟨run, by omega, rfl⟩
  · rw [integer_plus, signed_eq_ok_iff, id_eq]
    constructor
    · rintro ⟨run, bounded, rfl⟩
      exact ⟨.plus run, by omega, by omega⟩
    · rintro ⟨numeral, lower, upper⟩
      cases numeral with
      | plain run => exact absurd (run.decimal '+' (List.mem_cons_self ..)) (by decide)
      | plus run => exact ⟨run, by omega, rfl⟩
  · rw [integer_unsigned unsigned, signed_eq_ok_iff, id_eq]
    constructor
    · rintro ⟨run, bounded, rfl⟩
      exact ⟨.plain run, by omega, by omega⟩
    · rintro ⟨numeral, lower, upper⟩
      cases numeral with
      | plain run => exact ⟨run, by omega, rfl⟩
      | plus run => exact absurd rfl unsigned.1
      | minus run => exact absurd rfl unsigned.2

theorem integer_eq_error_iff (nonempty : token ≠ []) :
    integer token = .error e ↔ IntegerFault token e := by
  rcases sign_cases token with rfl | ⟨digits, rfl⟩ | ⟨digits, rfl⟩ | ⟨c, rest, rfl, unsigned⟩
  · exact absurd rfl nonempty
  · rw [integer_minus, signed_eq_error_iff]
    refine ⟨.minus, fun fault => ?_⟩
    cases fault with
    | plain unsigned => exact absurd rfl unsigned.2
    | minus breaks => exact breaks
  · rw [integer_plus, signed_eq_error_iff]
    refine ⟨.plus, fun fault => ?_⟩
    cases fault with
    | plain unsigned => exact absurd rfl unsigned.1
    | plus breaks => exact breaks
  · rw [integer_unsigned unsigned, signed_eq_error_iff]
    refine ⟨.plain unsigned, fun fault => ?_⟩
    cases fault with
    | plain _ breaks => exact breaks
    | plus => exact absurd rfl unsigned.1
    | minus => exact absurd rfl unsigned.2

/-- The range reaches one further below zero than above it. -/
example : integer "-9223372036854775808".toList = .ok (-9223372036854775808) ∧
    integer "+9223372036854775808".toList = .error .tooLarge := by
  decide

end ClausalSearch.Text
