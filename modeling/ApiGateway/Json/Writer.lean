/-!
# Compact JSON text

Tokens and error bodies are written as compact JSON: no blank between tokens, object
fields in the order given, integers in plain decimal. Inside a string, the quote and the
backslash are escaped, the five control characters with a short escape (`\b`, `\t`,
`\n`, `\f`, `\r`) use it, every other control character below U+0020 is written `\u00xx`
with lowercase hex digits, and all other characters, non-ASCII included, are written
as they are.

Main statements:
* `escapeChar_plain`: a character that needs no escape is written as itself.
-/

namespace ApiGateway.Json

/-- The lowercase hex digit of a number below 16. -/
def hexDigit (n : Nat) : Char :=
  if n < 10 then Char.ofNat ('0'.toNat + n) else Char.ofNat ('a'.toNat + n - 10)

/-- The characters that stand for one character inside a JSON string. -/
def escapeChar (c : Char) : List Char :=
  if c = '"' then ['\\', '"']
  else if c = '\\' then ['\\', '\\']
  else if c = '\x08' then ['\\', 'b']
  else if c = '\t' then ['\\', 't']
  else if c = '\n' then ['\\', 'n']
  else if c = '\x0c' then ['\\', 'f']
  else if c = '\r' then ['\\', 'r']
  else if c.toNat < 0x20 then
    ['\\', 'u', '0', '0', hexDigit (c.toNat / 16), hexDigit (c.toNat % 16)]
  else [c]

/-- A character that is neither a quote, a backslash nor a control character is
written as itself. -/
theorem escapeChar_plain (c : Char) (h1 : c ≠ '"') (h2 : c ≠ '\\') (h3 : 0x20 ≤ c.toNat) :
    escapeChar c = [c] := by
  have hb : c ≠ '\x08' := by intro h; subst h; simp at h3
  have ht : c ≠ '\t' := by intro h; subst h; simp at h3
  have hn : c ≠ '\n' := by intro h; subst h; simp at h3
  have hf : c ≠ '\x0c' := by intro h; subst h; simp at h3
  have hr : c ≠ '\r' := by intro h; subst h; simp at h3
  simp [escapeChar, h1, h2, hb, ht, hn, hf, hr, Nat.not_lt.mpr h3]

/-- A text as a JSON string, quotes included. -/
def quote (s : String) : String :=
  String.ofList ('"' :: s.toList.flatMap escapeChar ++ ['"'])

/-- An integer in plain decimal, with a leading `-` when negative. -/
def int (n : Int) : String :=
  if n < 0 then "-" ++ toString n.natAbs else toString n.natAbs

/-- A compact JSON object from already written field values, in the order given. -/
def object (fields : List (String × String)) : String :=
  "\x7b" ++ ",".intercalate (fields.map fun f => quote f.1 ++ ":" ++ f.2) ++ "\x7d"

example : quote "a\"b\\c\n\x00\x7f" = "\"a\\\"b\\\\c\\n\\u0000\x7f\"" := by decide +kernel
example : object [("a", int (-5)), ("b", quote "x")] = "\x7b\"a\":-5,\"b\":\"x\"\x7d" := by
  decide +kernel

end ApiGateway.Json
