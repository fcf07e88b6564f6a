/-!
# Decimal numerals

Numbers in settings text are decimal numerals read into a fixed range. A numeral is
an optional sign followed by ASCII digits. The digits are read left to right, and the
first digit that is not one, or the first prefix whose value leaves the range, decides
the failure. A lone sign is a bad digit; a minus sign is a bad digit where the range has
no negative numbers.

Main statements:
* `accumulate_ok_le`: a successful read never leaves the range.
-/

namespace ApiGateway.Text

/-- Why a numeral did not read as a number of the wanted range. -/
inductive NumeralError where
  /-- The text is empty. -/
  | empty
  /-- A character is not a digit, or a sign stands alone. -/
  | invalidDigit
  /-- The value is above the range. -/
  | tooLarge
  /-- The value is below the range. -/
  | tooSmall
  deriving DecidableEq, Repr

/-- The sentence that reports a numeral failure. -/
def NumeralError.message : NumeralError → String
  | .empty => "cannot parse integer from empty string"
  | .invalidDigit => "invalid digit found in string"
  | .tooLarge => "number too large to fit in target type"
  | .tooSmall => "number too small to fit in target type"

/-- The largest value of an unsigned 16-bit word, 2^16 - 1. -/
def maxU16 : Nat := 65535

/-- The largest value of an unsigned 32-bit word, 2^32 - 1. -/
def maxU32 : Nat := 4294967295

/-- The largest value of an unsigned 64-bit word, 2^64 - 1. -/
def maxU64 : Nat := 18446744073709551615

/-- The largest value of a signed 64-bit word, 2^63 - 1; the smallest is its negation
less one. -/
def maxI64 : Nat := 9223372036854775807

/-- Reads digits onto `acc`, failing with `overflow` once the value passes `limit`. -/
def accumulate (limit : Nat) (overflow : NumeralError) : Nat → List Char → Except NumeralError Nat
  | acc, [] => .ok acc
  | acc, c :: cs =>
    if c.isDigit then
      let v := acc * 10 + (c.toNat - '0'.toNat)
      if v ≤ limit then accumulate limit overflow v cs else .error overflow
    else .error .invalidDigit

/-- A successful read stays within the limit, given a start within it. -/
theorem accumulate_ok_le (limit : Nat) (overflow : NumeralError) (acc : Nat) (cs : List Char)
    (n : Nat) (hacc : acc ≤ limit) (h : accumulate limit overflow acc cs = .ok n) : n ≤ limit := by
  induction cs generalizing acc with
  | nil => simp only [accumulate, Except.ok.injEq] at h; omega
  | cons c cs ih =>
    simp only [accumulate] at h
    split at h
    · split at h
      · exact ih _ (by assumption) h
      · cases h
    · cases h

/-- Reads an unsigned numeral of at most `limit`; a leading `+` is allowed. -/
def readUnsigned (limit : Nat) (s : String) : Except NumeralError Nat :=
  match s.toList with
  | [] => .error .empty
  | ['+'] => .error .invalidDigit
  | ['-'] => .error .invalidDigit
  | '+' :: ds => accumulate limit .tooLarge 0 ds
  | ds => accumulate limit .tooLarge 0 ds

/-- Reads a signed numeral between `-low` and `high`; a leading `+` or `-` is allowed. -/
def readSigned (low high : Nat) (s : String) : Except NumeralError Int :=
  match s.toList with
  | [] => .error .empty
  | ['+'] => .error .invalidDigit
  | ['-'] => .error .invalidDigit
  | '+' :: ds => Int.ofNat <$> accumulate high .tooLarge 0 ds
  | '-' :: ds => (fun n => -(n : Int)) <$> accumulate low .tooSmall 0 ds
  | ds => Int.ofNat <$> accumulate high .tooLarge 0 ds

/-- Reads a signed 64-bit numeral. -/
def readI64 (s : String) : Except NumeralError Int :=
  readSigned (maxI64 + 1) maxI64 s

-- The empty text and a lone sign are refused whatever the limit.
example (limit : Nat) : readUnsigned limit "" = .error .empty := rfl
example (limit : Nat) : readUnsigned limit "+" = .error .invalidDigit := rfl

example : readUnsigned maxU32 "+5" = .ok 5 := by rfl
example : readUnsigned maxU32 "-0" = .error .invalidDigit := by rfl
example : readUnsigned maxU16 "99999" = .error .tooLarge := by rfl
example : readUnsigned maxU16 "9999999x" = .error .tooLarge := by rfl
example : readI64 "-9223372036854775809" = .error .tooSmall := by rfl

end ApiGateway.Text
