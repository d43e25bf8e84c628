/-!
Digits, and decimal numerals of 64 bits. The characters of a numeral are read from the left and the
first problem decides; where a character is no digit and the value is already too large, the
character decides.
-/
namespace ClausalSearch.Text

inductive NumeralError where
  | empty
  | invalidDigit
  | tooLarge
  | tooSmall
  deriving DecidableEq, Repr

def NumeralError.message : NumeralError → String
  | .empty => "cannot parse integer from empty string"
  | .invalidDigit => "invalid digit found in string"
  | .tooLarge => "number too large to fit in target type"
  | .tooSmall => "number too small to fit in target type"

def digit? (c : Char) : Option Nat := if c.isDigit then some (c.toNat - '0'.toNat) else none

def hexDigit? (c : Char) : Option Nat :=
  if 'a' ≤ c ∧ c ≤ 'f' then some (c.toNat - 'a'.toNat + 10)
  else if 'A' ≤ c ∧ c ≤ 'F' then some (c.toNat - 'A'.toNat + 10)
  else digit? c

def positional (base : Nat) (digits : List Char) : Nat :=
  digits.foldl (fun value c => base * value + (hexDigit? c).getD 0) 0

/-- Appends digits to `value`; a result above `limit` is the error `overflow`. -/
def appendDigits (limit : Nat) (overflow : NumeralError) (value : Nat) :
    List Char → Except NumeralError Nat
  | [] => .ok value
  | c :: rest =>
    match digit? c with
    | none => .error .invalidDigit
    | some d =>
      if limit < 10 * value + d then .error overflow
      else appendDigits limit overflow (10 * value + d) rest

def magnitude (limit : Nat) (overflow : NumeralError) : List Char → Except NumeralError Nat
  | [] => .error .invalidDigit
  | digits => appendDigits limit overflow 0 digits

def maxNatural : Nat := 0xFFFFFFFFFFFFFFFF

def maxInteger : Nat := 0x7FFFFFFFFFFFFFFF

def natural : List Char → Except NumeralError Nat
  | [] => .error .empty
  | '+' :: digits => magnitude maxNatural .tooLarge digits
  | digits => magnitude maxNatural .tooLarge digits

def integer : List Char → Except NumeralError Int
  | [] => .error .empty
  | '-' :: digits => (magnitude (maxInteger + 1) .tooSmall digits).map fun n => -n
  | '+' :: digits => (magnitude maxInteger .tooLarge digits).map fun n => n
  | digits => (magnitude maxInteger .tooLarge digits).map fun n => n

end ClausalSearch.Text
