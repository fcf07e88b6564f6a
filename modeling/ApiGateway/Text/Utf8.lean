/-!
# UTF-8 text from bytes

Names and values that arrive as raw bytes are read as text only when they are well-formed
UTF-8: no stray continuation byte, no truncated sequence, no overlong form, no surrogate
and nothing above U+10FFFF. Bytes that are not text are passed over by the callers, never
repaired.

Main statements:
* `toUTF8_toList_ascii`: an ASCII text is written one byte per character, its code.
-/

namespace ApiGateway.Text

/-- The text whose UTF-8 encoding the bytes are, if they are well-formed. -/
def ofUtf8? (bs : List UInt8) : Option String :=
  String.fromUTF8? ⟨bs.toArray⟩

/-- Reading a byte array from position `i` onto `r` gives `r` reversed, then the bytes from `i`. -/
theorem toList_loop (bs : ByteArray) (i : Nat) (r : List UInt8) :
    ByteArray.toList.loop bs i r = r.reverse ++ bs.data.toList.drop i := by
  fun_induction ByteArray.toList.loop bs i r with
  | case1 i r hi ih =>
    have hlen : i < bs.data.toList.length := by simpa using hi
    have hget : bs.get! i = bs.data.toList[i] := by
      cases bs with
      | mk data =>
        simp only [ByteArray.get!, Array.getElem_toList]
        exact getElem!_pos data i hi
    rw [ih, List.reverse_cons, List.append_assoc, hget, List.singleton_append,
      List.getElem_cons_drop]
  | case2 i r hi =>
    rw [List.drop_eq_nil_of_le (by simpa using hi), List.append_nil]

/-- Reading a byte array byte by byte gives its data. -/
theorem byteArray_toList (bs : ByteArray) : bs.toList = bs.data.toList := by
  simp [ByteArray.toList, toList_loop]

/-- ASCII characters are encoded one byte each, their code. -/
theorem utf8Encode_ascii {l : List Char} (h : ∀ c ∈ l, c.toNat < 128) :
    l.utf8Encode.data.toList = l.map fun c => c.val.toUInt8 := by
  induction l with
  | nil => simp
  | cons c rest ih =>
    have hc : c.utf8Size = 1 := by
      rw [Char.utf8Size_eq_one_iff, UInt32.le_iff_toNat_le]
      exact Nat.le_of_lt_succ (h c List.mem_cons_self)
    rw [List.utf8Encode_cons, ByteArray.toList_data_append, List.utf8Encode_singleton,
      String.utf8EncodeChar_eq_singleton hc, List.toList_data_toByteArray,
      ih fun c hc => h c (List.mem_cons_of_mem _ hc)]
    rfl

/-- The UTF-8 bytes of an ASCII text are its character codes, one byte each. -/
theorem toUTF8_toList_ascii (s : String) (h : ∀ c ∈ s.toList, c.toNat < 128) :
    s.toUTF8.toList = s.toList.map fun c => c.val.toUInt8 := by
  rw [byteArray_toList, String.toUTF8_eq_toByteArray, ← String.utf8Encode_toList]
  exact utf8Encode_ascii h

end ApiGateway.Text
