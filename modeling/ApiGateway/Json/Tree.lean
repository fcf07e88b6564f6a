import ApiGateway.Text.Utf8
import ApiGateway.Text.Numeral

/-!
# JSON documents as syntax trees

A JSON document read from bytes, kept close to its text so that a reader of typed
records can decide, field by field, what a strict reader would do with it.

The grammar is standard JSON: whitespace is space, tab, line feed and carriage return;
a number has an optional minus, an integer part without leading zeros, an optional
fraction and an optional exponent; a string may not hold a raw control byte and knows
the escapes `\" \\ \/ \b \f \n \r \t \uXXXX`. The whole document is one value with
whitespace around it.

Two questions are left open by the grammar and answered in the tree:

* a string's bytes need not be UTF-8 and its escapes may name half of a surrogate pair.
  Such a string is still well-formed, but it is no text: the tree records which of the
  two faults comes first, and whether a leading half stands right before the closing
  quote;
* a number is classed as an unsigned 64-bit integer, a negative 64-bit integer, or
  another number. A negative zero and integers out of range fall in the last class.
-/

namespace ApiGateway.Json

open ApiGateway.Text

/-- A string literal as a reader of text sees it. -/
inductive StringForm where
  /-- The literal is the given text. -/
  | text (s : String)
  /-- The literal's bytes are not UTF-8. -/
  | invalidUtf8
  /-- An escape names half of a surrogate pair; `atEnd` when the first such escape is a
  leading half right before the closing quote. -/
  | loneSurrogate (atEnd : Bool)
  deriving DecidableEq, Repr

/-- The class of a number literal. -/
inductive NumberForm where
  /-- An integer from 0 to 2^64 - 1. -/
  | unsigned (n : Nat)
  /-- An integer from -2^63 to -1. -/
  | negative (n : Int)
  /-- Any other number: a fraction, an exponent, a negative zero or an integer out of
  range. -/
  | float
  deriving DecidableEq, Repr

/-- A JSON value as written. -/
inductive Tree where
  | null
  | bool (b : Bool)
  | number (n : NumberForm)
  | string (s : StringForm)
  | array (items : List Tree)
  | object (fields : List (StringForm × Tree))
  deriving Repr

/-- Whether a byte is JSON whitespace. -/
def isSpace (b : UInt8) : Bool := b == 0x20 || b == 0x09 || b == 0x0A || b == 0x0D

/-- Drops leading whitespace. -/
def skipSpace (bs : List UInt8) : List UInt8 := bs.dropWhile isSpace

/-- The value of a hex digit. -/
def hexValue (b : UInt8) : Option Nat :=
  if 0x30 ≤ b && b ≤ 0x39 then some (b.toNat - 0x30)
  else if 0x61 ≤ b && b ≤ 0x66 then some (b.toNat - 0x61 + 10)
  else if 0x41 ≤ b && b ≤ 0x46 then some (b.toNat - 0x41 + 10)
  else none

/-- Reads four hex digits. -/
def readHex4 : List UInt8 → Option (Nat × List UInt8)
  | a :: b :: c :: d :: rest => do
    pure ((← hexValue a) * 4096 + (← hexValue b) * 256 + (← hexValue c) * 16 + (← hexValue d),
      rest)
  | _ => none

/-- The UTF-8 bytes of a code point. -/
def utf8Bytes (n : Nat) : List UInt8 := (String.singleton (Char.ofNat n)).toUTF8.toList

/-- The byte of a one-character escape. -/
def simpleEscape (b : UInt8) : Option UInt8 :=
  match b.toNat with
  | 0x22 => some 0x22
  | 0x5C => some 0x5C
  | 0x2F => some 0x2F
  | 0x62 => some 0x08
  | 0x66 => some 0x0C
  | 0x6E => some 0x0A
  | 0x72 => some 0x0D
  | 0x74 => some 0x09
  | _ => none

/-- Whether a code point is a leading surrogate. -/
def isLeading (n : Nat) : Bool := 0xD800 ≤ n && n ≤ 0xDBFF

/-- Whether a code point is a trailing surrogate. -/
def isTrailing (n : Nat) : Bool := 0xDC00 ≤ n && n ≤ 0xDFFF

/-- Reads the body of a string literal after its opening quote. `acc` holds the bytes read
so far, last first; `fault` the first surrogate fault met. -/
def readString : Nat → List UInt8 → List UInt8 → Option Bool → Option (StringForm × List UInt8)
  | 0, _, _, _ => none
  | _ + 1, [], _, _ => none
  | fuel + 1, b :: rest, acc, fault =>
    if b == 0x22 then
      let form := match fault with
        | some atEnd => .loneSurrogate atEnd
        | none => match ofUtf8? acc.reverse with
          | some s => .text s
          | none => .invalidUtf8
      some (form, rest)
    else if b == 0x5C then
      match rest with
      | 0x75 :: hex =>
        match readHex4 hex with
        | none => none
        | some (n, after) =>
          if isTrailing n then readString fuel after acc (fault.orElse fun _ => some false)
          else if isLeading n then
            match after with
            | 0x5C :: 0x75 :: hex2 =>
              match readHex4 hex2 with
              | some (m, after2) =>
                if isTrailing m then
                  readString fuel after2
                    ((utf8Bytes (0x10000 + (n - 0xD800) * 1024 + (m - 0xDC00))).reverse ++ acc)
                    fault
                else readString fuel after acc (fault.orElse fun _ => some false)
              | none => none
            | following => readString fuel after acc
                (fault.orElse fun _ => some (following.head? == some 0x22))
          else readString fuel after ((utf8Bytes n).reverse ++ acc) fault
      | e :: after => do
        let c ← simpleEscape e
        readString fuel after (c :: acc) fault
      | [] => none
    else if b < 0x20 then none
    else readString fuel rest (b :: acc) fault

/-- Reads decimal digits: their value, their count and the rest. -/
def readDigits : List UInt8 → Nat → Nat → Nat × Nat × List UInt8
  | b :: rest, v, n =>
    if 0x30 ≤ b && b ≤ 0x39 then readDigits rest (v * 10 + (b.toNat - 0x30)) (n + 1)
    else (v, n, b :: rest)
  | [], v, n => (v, n, [])

/-- Reads a number literal. -/
def readNumber (bs : List UInt8) : Option (NumberForm × List UInt8) := do
  let (neg, bs) := match bs with
    | 0x2D :: rest => (true, rest)
    | _ => (false, bs)
  let (n, count, rest) := readDigits bs 0 0
  if count == 0 then none
  if bs.head? == some 0x30 && 1 < count then none
  let (fraction, rest) ← match rest with
    | 0x2E :: more =>
      let (_, c, after) := readDigits more 0 0
      if c == 0 then none else some (true, after)
    | _ => some (false, rest)
  let (exponent, rest) ← match rest with
    | e :: more =>
      if e == 0x65 || e == 0x45 then
        let more := match more with
          | s :: m => if s == 0x2B || s == 0x2D then m else s :: m
          | [] => []
        let (_, c, after) := readDigits more 0 0
        if c == 0 then none else some (true, after)
      else some (false, e :: more)
    | [] => some (false, [])
  let form :=
    if fraction || exponent then NumberForm.float
    else if neg then (if 0 < n && n ≤ maxI64 + 1 then .negative (-(n : Int)) else .float)
    else if n ≤ maxU64 then .unsigned n
    else .float
  pure (form, rest)

mutual

/-- Reads one value after optional whitespace. -/
def readValue : Nat → List UInt8 → Option (Tree × List UInt8)
  | 0, _ => none
  | fuel + 1, bs =>
    match skipSpace bs with
    | 0x6E :: 0x75 :: 0x6C :: 0x6C :: rest => some (.null, rest)
    | 0x74 :: 0x72 :: 0x75 :: 0x65 :: rest => some (.bool true, rest)
    | 0x66 :: 0x61 :: 0x6C :: 0x73 :: 0x65 :: rest => some (.bool false, rest)
    | 0x22 :: rest => (readString (rest.length + 1) rest [] none).map fun r => (.string r.1, r.2)
    | 0x5B :: rest =>
      match skipSpace rest with
      | 0x5D :: after => some (.array [], after)
      | _ => (readItems fuel rest []).map fun r => (.array r.1, r.2)
    | 0x7B :: rest =>
      match skipSpace rest with
      | 0x7D :: after => some (.object [], after)
      | _ => (readFields fuel rest []).map fun r => (.object r.1, r.2)
    | rest => (readNumber rest).map fun r => (.number r.1, r.2)

/-- Reads the items of a non-empty array, each followed by `,` or the closing bracket. -/
def readItems : Nat → List UInt8 → List Tree → Option (List Tree × List UInt8)
  | 0, _, _ => none
  | fuel + 1, bs, acc => do
    let (item, rest) ← readValue fuel bs
    match skipSpace rest with
    | 0x2C :: more => readItems fuel more (item :: acc)
    | 0x5D :: more => some ((item :: acc).reverse, more)
    | _ => none

/-- Reads the members of a non-empty object, each followed by `,` or the closing brace. -/
def readFields : Nat → List UInt8 → List (StringForm × Tree) →
    Option (List (StringForm × Tree) × List UInt8)
  | 0, _, _ => none
  | fuel + 1, bs, acc => do
    let (key, rest) ← match skipSpace bs with
      | 0x22 :: rest => readString (rest.length + 1) rest [] none
      | _ => none
    let rest ← match skipSpace rest with
      | 0x3A :: more => some more
      | _ => none
    let (value, rest) ← readValue fuel rest
    match skipSpace rest with
    | 0x2C :: more => readFields fuel more ((key, value) :: acc)
    | 0x7D :: more => some (((key, value) :: acc).reverse, more)
    | _ => none

end

/-- Reads a whole document: one value with only whitespace around it. -/
def read? (bs : List UInt8) : Option Tree :=
  match readValue (bs.length + 1) bs with
  | some (t, rest) => if (skipSpace rest).isEmpty then some t else none
  | none => none

-- A literal reads, whitespace around it allowed.
example : (read? [0x20, 0x74, 0x72, 0x75, 0x65, 0x20]).isSome = true := by decide

end ApiGateway.Json
