/-!
# Base64url without padding

Bytes are written three at a time as four characters of the URL-safe alphabet (`A`–`Z`,
`a`–`z`, `0`–`9`, `-`, `_`), each carrying six bits, most significant first. A final group
of one or two bytes is written as two or three characters and no padding follows.

Reading is strict: every character must be in the alphabet, so `=` is refused; a final
group of one character is refused; and the bits that a short final group carries beyond
its bytes must be zero, so each byte string has exactly one written form.

Main statements:
* `decode_encode`: reading what was written gives back the bytes.
-/

namespace ApiGateway.Text.Base64Url

/-- The character of a six-bit value. -/
def digit (n : Nat) : Char :=
  if n < 26 then Char.ofNat (65 + n)
  else if n < 52 then Char.ofNat (97 + (n - 26))
  else if n < 62 then Char.ofNat (48 + (n - 52))
  else if n = 62 then '-'
  else '_'

/-- The six-bit value of a character of the alphabet. -/
def value (c : Char) : Option Nat :=
  if 'A' ≤ c && c ≤ 'Z' then some (c.toNat - 65)
  else if 'a' ≤ c && c ≤ 'z' then some (c.toNat - 97 + 26)
  else if '0' ≤ c && c ≤ '9' then some (c.toNat - 48 + 52)
  else if c = '-' then some 62
  else if c = '_' then some 63
  else none

/-- Writes bytes, three to four characters. -/
def encodeList : List UInt8 → List Char
  | a :: b :: c :: rest =>
    let n := a.toNat * 65536 + b.toNat * 256 + c.toNat
    digit (n / 262144) :: digit (n / 4096 % 64) :: digit (n / 64 % 64) :: digit (n % 64) ::
      encodeList rest
  | [a, b] =>
    let n := a.toNat * 256 + b.toNat
    [digit (n / 1024), digit (n / 16 % 64), digit (n % 16 * 4)]
  | [a] => [digit (a.toNat / 4), digit (a.toNat % 4 * 16)]
  | [] => []

/-- Reads characters, four to three bytes, refusing anything that writing does not
produce. -/
def decodeList : List Char → Option (List UInt8)
  | c1 :: c2 :: c3 :: c4 :: rest => do
    let n := (← value c1) * 262144 + (← value c2) * 4096 + (← value c3) * 64 + (← value c4)
    let tail ← decodeList rest
    pure ((n / 65536).toUInt8 :: (n / 256 % 256).toUInt8 :: (n % 256).toUInt8 :: tail)
  | [c1, c2, c3] => do
    let v3 ← value c3
    if v3 % 4 != 0 then none
    else
      let n := (← value c1) * 1024 + (← value c2) * 16 + v3 / 4
      pure [(n / 256).toUInt8, (n % 256).toUInt8]
  | [c1, c2] => do
    let v2 ← value c2
    if v2 % 16 != 0 then none
    else pure [((← value c1) * 4 + v2 / 16).toUInt8]
  | [_] => none
  | [] => some []

/-- The written form of bytes. -/
def encode (bs : List UInt8) : String := String.ofList (encodeList bs)

/-- The bytes of a written form, if it is one. -/
def decode (s : String) : Option (List UInt8) := decodeList s.toList

/-- Each of the sixty-four digits reads as its own value. -/
theorem value_digit (n : Nat) (h : n < 64) : value (digit n) = some n := by
  have key : ∀ m : Fin 64, value (digit m.val) = some m.val := by decide
  exact key ⟨n, h⟩

/-- Reading what was written gives back the bytes. -/
theorem decode_encode (bs : List UInt8) : decodeList (encodeList bs) = some bs := by
  fun_induction encodeList bs with
  | case1 a b c rest n ih =>
    have ha := a.toNat_lt
    have hb := b.toNat_lt
    have hc := c.toNat_lt
    simp only [decodeList, value_digit _ (by omega : n / 262144 < 64),
      value_digit _ (by omega : n / 4096 % 64 < 64), value_digit _ (by omega : n / 64 % 64 < 64),
      value_digit _ (by omega : n % 64 < 64), ih, Option.bind_eq_bind, Option.bind_some,
      Option.pure_def, Option.some.injEq, List.cons.injEq]
    refine ⟨?_, ?_, ?_, trivial⟩ <;> apply UInt8.toNat_inj.mp <;> simp [n] <;> omega
  | case2 a b n =>
    have ha := a.toNat_lt
    have hb := b.toNat_lt
    simp only [decodeList, value_digit _ (by omega : n / 1024 < 64),
      value_digit _ (by omega : n / 16 % 64 < 64), value_digit _ (by omega : n % 16 * 4 < 64),
      Option.bind_eq_bind, Option.bind_some, Option.pure_def]
    have h4 : n % 16 * 4 % 4 = 0 := by omega
    simp only [h4, bne_self_eq_false, Bool.false_eq_true, if_false, Option.some.injEq,
      List.cons.injEq, and_true]
    refine ⟨?_, ?_⟩ <;> apply UInt8.toNat_inj.mp <;> simp [n] <;> omega
  | case3 a =>
    have ha := a.toNat_lt
    simp only [decodeList, value_digit _ (by omega : a.toNat / 4 < 64),
      value_digit _ (by omega : a.toNat % 4 * 16 < 64), Option.bind_eq_bind, Option.bind_some,
      Option.pure_def]
    have h16 : a.toNat % 4 * 16 % 16 = 0 := by omega
    simp only [h16, bne_self_eq_false, Bool.false_eq_true, if_false, Option.some.injEq,
      List.cons.injEq, and_true]
    apply UInt8.toNat_inj.mp
    simp
    omega
  | case4 => rfl

end ApiGateway.Text.Base64Url
