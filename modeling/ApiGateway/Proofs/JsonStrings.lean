import Mathlib
import ApiGateway.Json.Tree
import ApiGateway.Json.Writer

/-!
# String literals read back

The compact writer quotes a text by escaping the quote, the backslash and every control
character, and writing every other character as its UTF-8 bytes. The reader takes a string
literal one step at a time: a plain byte, a short escape or a `\u` escape per step. Reading
what the writer wrote gives back the text, for every text, non-ASCII and control characters
included, whatever bytes follow the closing quote.

The step count of a written text is at most its byte count, which is the fuel the reader gives
itself, so the reader never runs out on a written literal.

Main statements:
* `readString_escapeChar`: the written form of one character reads back as its UTF-8 bytes.
* `readString_quote`: the body of a quoted text reads back as the text.
* `readValue_quote`: a quoted text is read as a string value holding the text.
-/

namespace ApiGateway.Json

open ApiGateway.Text

/-! ## The bytes of a text -/

/-- The bytes of a text are the bytes of its characters, one after another. -/
theorem toUTF8_toList_flatMap (s : String) :
    s.toUTF8.toList = s.toList.flatMap String.utf8EncodeChar := by
  rw [byteArray_toList, String.toUTF8_eq_toByteArray, ← String.utf8Encode_toList, List.utf8Encode,
    List.toList_data_toByteArray]

/-- The bytes of joined texts are the bytes of the first followed by those of the second. -/
theorem toUTF8_toList_append (s t : String) :
    (s ++ t).toUTF8.toList = s.toUTF8.toList ++ t.toUTF8.toList := by
  rw [toUTF8_toList_flatMap, toUTF8_toList_flatMap, toUTF8_toList_flatMap, String.toList_append,
    List.flatMap_append]

/-- The bytes of a text read back as the text. -/
theorem ofUtf8?_toUTF8 (s : String) : ofUtf8? s.toUTF8.toList = some s := by
  have harr : (⟨s.toUTF8.toList.toArray⟩ : ByteArray) = s.toByteArray := by
    rw [byteArray_toList, Array.toArray_toList, String.toUTF8_eq_toByteArray]
  rw [ofUtf8?, harr, String.fromUTF8?, dif_pos s.isValidUTF8]
  rfl

/-- A character named by its code point has the bytes of the character. -/
theorem utf8Bytes_toNat (c : Char) : utf8Bytes c.toNat = String.utf8EncodeChar c := by
  rw [utf8Bytes, Char.ofNat_toNat, toUTF8_toList_flatMap, String.toList_singleton,
    List.flatMap_singleton]

/-- Every byte of a character beyond ASCII has its high bit set. -/
theorem utf8EncodeChar_high {c : Char} (h : 2 ≤ c.utf8Size) :
    ∀ b ∈ String.utf8EncodeChar c, 0x80 ≤ b.toNat := by
  have hmax := c.utf8Size_le_four
  -- each byte is some bits of the code point or'ed with a marker whose high bit is set
  have hor : ∀ x y : UInt8, 0x80 ≤ y.toNat → 0x80 ≤ (x ||| y).toNat := fun x y hy => by
    rw [UInt8.toNat_or]
    exact Nat.le_trans hy Nat.right_le_or
  obtain h2 | h3 | h4 : c.utf8Size = 2 ∨ c.utf8Size = 3 ∨ c.utf8Size = 4 := by omega
  · rw [String.utf8EncodeChar_eq_cons_cons h2]
    simp only [List.mem_cons, List.not_mem_nil, or_false]
    rintro b (rfl | rfl) <;> exact hor _ _ (by decide)
  · rw [String.utf8EncodeChar_eq_cons_cons_cons h3]
    simp only [List.mem_cons, List.not_mem_nil, or_false]
    rintro b (rfl | rfl | rfl) <;> exact hor _ _ (by decide)
  · rw [String.utf8EncodeChar_eq_cons_cons_cons_cons h4]
    simp only [List.mem_cons, List.not_mem_nil, or_false]
    rintro b (rfl | rfl | rfl | rfl) <;> exact hor _ _ (by decide)

/-- A byte that a string literal holds as it is: no quote, no backslash, no control byte. -/
def PlainByte (b : UInt8) : Prop := b.toNat ≠ 0x22 ∧ b.toNat ≠ 0x5C ∧ 0x20 ≤ b.toNat

/-- A character that is neither a quote, a backslash nor a control character has plain
bytes: its own code below 128, and bytes with the high bit set above. -/
theorem utf8EncodeChar_plain {c : Char} (h1 : c ≠ '"') (h2 : c ≠ '\\') (h3 : 0x20 ≤ c.toNat) :
    ∀ b ∈ String.utf8EncodeChar c, PlainByte b := by
  by_cases hsize : c.utf8Size = 1
  · have hlt : c.toNat < 128 := by
      have := (Char.utf8Size_eq_one_iff).1 hsize
      rw [UInt32.le_iff_toNat_le] at this
      exact Nat.lt_succ_of_le this
    have hbyte : c.val.toUInt8.toNat = c.toNat := by
      rw [UInt32.toNat_toUInt8]
      exact Nat.mod_eq_of_lt (by simp only [Char.toNat] at hlt; omega)
    rw [String.utf8EncodeChar_eq_singleton hsize]
    intro b hb
    rw [List.mem_singleton] at hb
    subst hb
    rw [PlainByte, hbyte]
    exact ⟨fun h => h1 (Char.toNat_inj.1 h), fun h => h2 (Char.toNat_inj.1 h), h3⟩
  · intro b hb
    have := utf8EncodeChar_high (by have := c.utf8Size_pos; omega) b hb
    exact ⟨by omega, by omega, by omega⟩

/-- Each lowercase hex digit is one byte that reads back as its value. -/
theorem hexDigit_byte {d : Nat} (h : d < 16) :
    ∃ b, String.utf8EncodeChar (hexDigit d) = [b] ∧ hexValue b = some d := by
  have hall : ∀ d : Fin 16, (String.utf8EncodeChar (hexDigit d)).map hexValue = [some d.val] := by
    decide
  exact List.map_eq_singleton_iff.1 (hall ⟨d, h⟩)

/-! ## One step of the reader -/

section Step

variable {fuel : Nat} {rest acc : List UInt8} {fault : Option Bool}

/-- A closing quote ends the text with the bytes read so far, when they are a text. -/
theorem readString_closing {s : String} (h : ofUtf8? acc.reverse = some s) :
    readString (fuel + 1) (0x22 :: rest) acc none = some (.text s, rest) := by
  simp [readString, h]

/-- A plain byte is taken as it is. -/
theorem readString_plain {b : UInt8} (hb : PlainByte b) :
    readString (fuel + 1) (b :: rest) acc fault = readString fuel rest (b :: acc) fault := by
  obtain ⟨h1, h2, h3⟩ := hb
  have h1' : b ≠ 0x22 := fun h => h1 (by rw [h]; rfl)
  have h2' : b ≠ 0x5C := fun h => h2 (by rw [h]; rfl)
  have h4 : ¬ b < 0x20 := by
    rw [UInt8.lt_iff_toNat_lt]
    exact Nat.not_lt.2 h3
  simp [readString, h1', h2', h4]

/-- A short escape is taken as the byte it stands for. -/
theorem readString_shortEscape {e c : UInt8} (he : simpleEscape e = some c) :
    readString (fuel + 1) (0x5C :: e :: rest) acc fault =
      readString fuel rest (c :: acc) fault := by
  -- `u` opens a code point and is no short escape
  have hu : e ≠ 0x75 := by
    rintro rfl
    cases he
  simp (disch := exact hu) [readString, he]

/-- A `\\u` escape of a code point outside the surrogate range is taken as that code point's
bytes. -/
theorem readString_codePoint {hex after : List UInt8} {n : Nat}
    (hx : readHex4 hex = some (n, after)) (ht : isTrailing n = false) (hl : isLeading n = false) :
    readString (fuel + 1) (0x5C :: 0x75 :: hex) acc fault =
      readString fuel after ((utf8Bytes n).reverse ++ acc) fault := by
  simp [readString, hx, ht, hl]

/-- Plain bytes are taken one step each. -/
theorem readString_plainBytes {bs : List UInt8} (h : ∀ b ∈ bs, PlainByte b) :
    readString (fuel + bs.length) (bs ++ rest) acc fault =
      readString fuel rest (bs.reverse ++ acc) fault := by
  induction bs generalizing acc with
  | nil => rfl
  | cons b bs ih =>
    rw [List.length_cons, ← Nat.add_assoc, List.cons_append,
      readString_plain (h b List.mem_cons_self), ih fun b hb => h b (List.mem_cons_of_mem _ hb),
      List.reverse_cons, List.append_assoc, List.singleton_append]

end Step

/-! ## Characters and texts -/

/-- How many steps the reader takes over the written form of a character: one for an escape,
one per byte for a character written as itself. -/
def escapeSteps (c : Char) : Nat :=
  if c.toNat < 0x20 ∨ c = '"' ∨ c = '\\' then 1 else c.utf8Size

/-- A character written as itself takes one step per byte. -/
theorem escapeSteps_plain {c : Char} (hge : 0x20 ≤ c.toNat) (hq : c ≠ '"') (hs : c ≠ '\\') :
    escapeSteps c = c.utf8Size := by
  have hescaped : ¬ (c.toNat < 0x20 ∨ c = '"' ∨ c = '\\') := by
    simp only [not_or]
    exact ⟨Nat.not_lt.2 hge, hq, hs⟩
  rw [escapeSteps, if_neg hescaped]

/-- The bytes of a text's characters as the writer writes them inside quotes. -/
def escapedBytes (s : String) : List UInt8 :=
  s.toList.flatMap fun c => (escapeChar c).flatMap String.utf8EncodeChar

/-- The characters with a short escape: the quote, the backslash and five control
characters. -/
def shortEscaped : List Char := ['"', '\\', '\x08', '\t', '\n', '\x0c', '\r']

/-- Every character is written in one of three ways: by its short escape, as `\u00` and two
hex digits when it is another control character, or as itself. -/
theorem escapeChar_cases (c : Char) :
    c ∈ shortEscaped ∨
    (c.toNat < 0x20 ∧ escapeChar c =
      ['\\', 'u', '0', '0', hexDigit (c.toNat / 16), hexDigit (c.toNat % 16)]) ∨
    (0x20 ≤ c.toNat ∧ c ≠ '"' ∧ c ≠ '\\' ∧ escapeChar c = [c]) := by
  by_cases hshort : c ∈ shortEscaped
  · exact .inl hshort
  · simp only [shortEscaped, List.mem_cons, List.not_mem_nil, or_false, not_or] at hshort
    obtain ⟨hq, hs, hb, ht, hn, hf, hr⟩ := hshort
    by_cases hlt : c.toNat < 0x20
    · refine .inr (.inl ⟨hlt, ?_⟩)
      rw [escapeChar, if_neg hq, if_neg hs, if_neg hb, if_neg ht, if_neg hn, if_neg hf, if_neg hr,
        if_pos hlt]
    · have hge := Nat.le_of_not_lt hlt
      exact .inr (.inr ⟨hge, hq, hs, escapeChar_plain c hq hs hge⟩)

section Characters

variable {fuel : Nat} {rest acc : List UInt8} {fault : Option Bool}

/-- The reader turns the written form of a character back into the character's bytes. -/
theorem readString_escapeChar (c : Char) :
    readString (fuel + escapeSteps c) ((escapeChar c).flatMap String.utf8EncodeChar ++ rest) acc
      fault = readString fuel rest ((String.utf8EncodeChar c).reverse ++ acc) fault := by
  rcases escapeChar_cases c with hshort | ⟨hlt, hcontrol⟩ | ⟨hge, hq, hs, hplain⟩
  · -- a short escape: two bytes in one step
    simp only [shortEscaped, List.mem_cons, List.not_mem_nil, or_false] at hshort
    rcases hshort with rfl | rfl | rfl | rfl | rfl | rfl | rfl <;>
      exact readString_shortEscape rfl
  · -- `\u00` and two hex digits: six bytes in one step
    obtain ⟨b1, hb1, hv1⟩ := hexDigit_byte (d := c.toNat / 16) (by omega)
    obtain ⟨b2, hb2, hv2⟩ := hexDigit_byte (d := c.toNat % 16) (by omega)
    have hzero : hexValue 0x30 = some 0 := by decide
    have hx : readHex4 (0x30 :: 0x30 :: b1 :: b2 :: rest) = some (c.toNat, rest) := by
      simp only [readHex4, hzero, hv1, hv2, Option.pure_def, Option.bind_eq_bind,
        Option.bind_some, Option.some.injEq, Prod.mk.injEq, and_true]
      omega
    have hbytes : (escapeChar c).flatMap String.utf8EncodeChar ++ rest =
        0x5C :: 0x75 :: 0x30 :: 0x30 :: b1 :: b2 :: rest := by
      simp only [hcontrol, List.flatMap_cons, List.flatMap_nil, hb1, hb2]
      rfl
    have ht : isTrailing c.toNat = false := by simp [isTrailing]; omega
    have hl : isLeading c.toNat = false := by simp [isLeading]; omega
    rw [escapeSteps, if_pos (.inl hlt), hbytes, readString_codePoint hx ht hl, utf8Bytes_toNat]
  · -- the character itself: one step per byte
    rw [escapeSteps_plain hge hq hs, hplain, List.flatMap_singleton,
      ← String.length_utf8EncodeChar]
    exact readString_plainBytes (utf8EncodeChar_plain hq hs hge)

/-- The reader turns the written characters of a list back into their bytes, one step per
escape and one per plain byte. -/
theorem readString_escapeList (cs : List Char) :
    readString (fuel + (cs.map escapeSteps).sum)
        ((cs.flatMap fun c => (escapeChar c).flatMap String.utf8EncodeChar) ++ rest) acc fault =
      readString fuel rest ((cs.flatMap String.utf8EncodeChar).reverse ++ acc) fault := by
  induction cs generalizing acc with
  | nil => rfl
  | cons c cs ih =>
    rw [List.map_cons, List.sum_cons, Nat.add_comm (escapeSteps c), ← Nat.add_assoc,
      List.flatMap_cons, List.append_assoc, readString_escapeChar, ih, List.flatMap_cons,
      List.reverse_append, List.append_assoc]

end Characters

/-- The reader takes at most one step per written byte. -/
theorem escapeSteps_le (c : Char) :
    escapeSteps c ≤ ((escapeChar c).flatMap String.utf8EncodeChar).length := by
  rcases escapeChar_cases c with hshort | ⟨hlt, hcontrol⟩ | ⟨hge, hq, hs, hplain⟩
  · simp only [shortEscaped, List.mem_cons, List.not_mem_nil, or_false] at hshort
    rcases hshort with rfl | rfl | rfl | rfl | rfl | rfl | rfl <;> decide
  · rw [escapeSteps, if_pos (.inl hlt), hcontrol, List.flatMap_cons, List.length_append]
    have := List.length_pos_of_ne_nil (String.utf8EncodeChar_ne_nil (c := '\\'))
    omega
  · rw [escapeSteps_plain hge hq hs, hplain, List.flatMap_singleton,
      String.length_utf8EncodeChar]

/-- Writing a text takes at least as many bytes as reading it back takes steps. -/
theorem escapeSteps_sum_le (cs : List Char) :
    (cs.map escapeSteps).sum ≤
      (cs.flatMap fun c => (escapeChar c).flatMap String.utf8EncodeChar).length := by
  induction cs with
  | nil => simp
  | cons c cs ih =>
    rw [List.map_cons, List.sum_cons, List.flatMap_cons, List.length_append]
    have := escapeSteps_le c
    omega

/-- The bytes of a quoted text: the written characters between two quotes. -/
theorem quote_bytes (s : String) :
    (quote s).toUTF8.toList = 0x22 :: escapedBytes s ++ [0x22] := by
  rw [toUTF8_toList_flatMap, quote, String.toList_ofList]
  simp only [List.flatMap_cons, List.flatMap_append, List.flatMap_assoc, List.flatMap_nil,
    List.append_nil]
  rfl

/-- The body of a quoted text, read with the fuel the reader gives itself, is the text,
whatever follows the closing quote. -/
theorem readString_quote (s : String) (more : List UInt8) :
    readString ((escapedBytes s ++ 0x22 :: more).length + 1) (escapedBytes s ++ 0x22 :: more) []
      none = some (.text s, more) := by
  have hle := escapeSteps_sum_le s.toList
  -- the steps of the characters leave fuel for the closing quote
  have hfuel : (escapedBytes s ++ 0x22 :: more).length + 1 =
      (more.length + 1 + ((escapedBytes s).length - (s.toList.map escapeSteps).sum) + 1) +
        (s.toList.map escapeSteps).sum := by
    simp only [escapedBytes, List.length_append, List.length_cons] at hle ⊢
    omega
  rw [hfuel, escapedBytes, readString_escapeList, List.append_nil, readString_closing]
  rw [List.reverse_reverse, ← toUTF8_toList_flatMap, ofUtf8?_toUTF8]

/-- Skipping blanks before a byte that is not one skips nothing. -/
theorem skipSpace_cons {b : UInt8} (bs : List UInt8) (h : isSpace b = false) :
    skipSpace (b :: bs) = b :: bs := by
  simp [skipSpace, h]

/-- A quoted text is read as a string value holding the text, whatever follows it. -/
theorem readValue_quote {fuel : Nat} (s : String) (more : List UInt8) :
    readValue (fuel + 1) ((quote s).toUTF8.toList ++ more) = some (.string (.text s), more) := by
  rw [quote_bytes]
  simp only [List.cons_append, List.append_assoc]
  rw [readValue.eq_2, skipSpace_cons _ (by decide)]
  simp only [List.nil_append, readString_quote, Option.map_some]

end ApiGateway.Json
