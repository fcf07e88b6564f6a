import ApiGateway.Text.Utf8

/-!
# Header names, values and maps

A header name is a non-empty token of ASCII letters, digits and the marks
``!#$%&'*+-.^_`|~``, compared in lowercase. A header value is a byte string without
control bytes other than the tab; it reads as text only when every byte is a visible
ASCII character or a tab. A header map keeps its fields in the order they were added,
and the same name may occur more than once.

Main statements:
* `ofString?_of_visible`: a text of visible ASCII, spaces and tabs is a value that reads back
  as the same text.
* `get?_insert`: after `insert`, the name has exactly the inserted value first.
* `get?_remove`: after `remove`, the name has no value.
-/

namespace ApiGateway.Http

/-- Whether a character may appear in a header name. -/
def isTokenChar (c : Char) : Bool :=
  (c.isAlphanum && c.toNat < 128) || "!#$%&'*+-.^_`|~".toList.contains c

/-- A header name, in lowercase. -/
structure HeaderName where
  /-- The lowercase name. -/
  name : String
  deriving DecidableEq, Repr

namespace HeaderName

/-- The header name spelled by a text, ignoring the case of its letters, if the text
is a valid name. -/
def ofString? (s : String) : Option HeaderName :=
  if s.isEmpty || 65536 < s.length then none
  else if s.toList.all isTokenChar then some ⟨String.ofList (s.toList.map Char.toLower)⟩
  else none

end HeaderName

/-- A header value: bytes without control bytes other than the tab. -/
structure HeaderValue where
  /-- The bytes of the value. -/
  bytes : List UInt8
  deriving DecidableEq, Repr

namespace HeaderValue

/-- Whether a byte may appear in a header value. -/
def isValidByte (b : UInt8) : Bool := (32 ≤ b && b != 127) || b == 9

/-- Whether a byte is a visible ASCII character or a tab. -/
def isVisibleByte (b : UInt8) : Bool := (32 ≤ b && b < 127) || b == 9

/-- The header value of the given bytes, if they are valid. -/
def ofBytes? (bs : List UInt8) : Option HeaderValue :=
  if bs.all isValidByte then some ⟨bs⟩ else none

/-- The header value of a text's UTF-8 bytes, if they are valid. -/
def ofString? (s : String) : Option HeaderValue :=
  ofBytes? s.toUTF8.toList

/-- The header value of a text written for it, taken byte for byte. -/
def ofText (s : String) : HeaderValue := ⟨s.toUTF8.toList⟩

/-- Whether the value reads as text: every byte visible ASCII or a tab. -/
def isVisible (v : HeaderValue) : Bool := v.bytes.all isVisibleByte

/-- The value as text, when it reads as text. -/
def text? (v : HeaderValue) : Option String :=
  if v.isVisible then some (String.ofList (v.bytes.map fun b => Char.ofNat b.toNat)) else none

/-- A visible byte may stand in a header value. -/
theorem isValidByte_of_isVisibleByte {b : UInt8} (h : isVisibleByte b = true) :
    isValidByte b = true := by
  simp only [isVisibleByte, isValidByte, Bool.or_eq_true, Bool.and_eq_true, decide_eq_true_eq,
    bne_iff_ne, ne_eq, beq_iff_eq] at h ⊢
  rcases h with ⟨h1, h2⟩ | h
  · refine .inl ⟨h1, fun he => ?_⟩
    subst he
    exact absurd h2 (by decide)
  · exact .inr h

/-- An ASCII code names the character with that code. -/
theorem toNat_ofNat_of_lt {n : Nat} (h : n < 128) : (Char.ofNat n).toNat = n := by
  have hv : n.isValidChar := Or.inl (by omega)
  -- through the definition itself, without generating equation lemmas for `Char.ofNatAux`
  show (if h : n.isValidChar then Char.ofNatAux n h else '\x00').toNat = n
  rw [dif_pos hv]
  rfl

/-- An ASCII character is one byte with its own code. -/
theorem toNat_toUInt8_val {c : Char} (h : c.toNat < 128) : c.val.toUInt8.toNat = c.toNat := by
  rw [UInt32.toNat_toUInt8]
  exact Nat.mod_eq_of_lt (by simp only [Char.toNat] at h; omega)

/-- The text of a value holds visible ASCII characters, spaces and tabs, each the byte it
came from. -/
theorem text?_chars {v : HeaderValue} {s : String} (h : v.text? = some s) :
    ∀ c ∈ s.toList, c.toNat < 128 ∧ isVisibleByte c.val.toUInt8 = true := by
  unfold text? at h
  split at h
  next hvis =>
    cases h
    intro c hc
    simp only [String.toList_ofList, List.mem_map] at hc
    obtain ⟨b, hb, rfl⟩ := hc
    have hbv : isVisibleByte b = true := List.all_eq_true.1 hvis b hb
    have hlt : b.toNat < 128 := by
      simp only [isVisibleByte, Bool.or_eq_true, Bool.and_eq_true, decide_eq_true_eq,
        beq_iff_eq] at hbv
      rcases hbv with ⟨-, h2⟩ | rfl
      · exact Nat.lt_trans (UInt8.lt_iff_toNat_lt.1 h2) (by decide)
      · decide
    have hc : (Char.ofNat b.toNat).toNat = b.toNat := toNat_ofNat_of_lt hlt
    have hbyte : (Char.ofNat b.toNat).val.toUInt8 = b :=
      UInt8.toNat_inj.1 (by rw [toNat_toUInt8_val (by omega), hc])
    refine ⟨by omega, ?_⟩
    rw [hbyte]
    exact hbv
  next => cases h

/-- A text of visible ASCII characters, spaces and tabs is a header value that reads back as
the same text. -/
theorem ofString?_of_visible {s : String}
    (h : ∀ c ∈ s.toList, c.toNat < 128 ∧ isVisibleByte c.val.toUInt8 = true) :
    ∃ v, ofString? s = some v ∧ v.text? = some s := by
  have hbytes := Text.toUTF8_toList_ascii s fun c hc => (h c hc).1
  have hvis : (s.toList.map fun c => c.val.toUInt8).all isVisibleByte = true := by
    simp only [List.all_map, List.all_eq_true, Function.comp_def]
    exact fun c hc => (h c hc).2
  have hvalid : (s.toList.map fun c => c.val.toUInt8).all isValidByte = true := by
    simp only [List.all_eq_true] at hvis ⊢
    exact fun b hb => isValidByte_of_isVisibleByte (hvis b hb)
  -- each byte read back as a character is the character it came from
  have hback :
      ((s.toList.map fun c => c.val.toUInt8).map fun b => Char.ofNat b.toNat) = s.toList := by
    rw [List.map_map]
    refine (List.map_congr_left fun c hc => ?_).trans (List.map_id _)
    show Char.ofNat c.val.toUInt8.toNat = c
    rw [toNat_toUInt8_val (h c hc).1, Char.ofNat_toNat]
  refine ⟨⟨s.toList.map fun c => c.val.toUInt8⟩, ?_, ?_⟩
  · rw [ofString?, hbytes, ofBytes?, if_pos hvalid]
  · simp only [text?, isVisible, hvis, if_true, hback, String.ofList_toList]

/-- A text that is a header value is the value of its own bytes. -/
theorem eq_ofText_of_ofString? {s : String} {v : HeaderValue} (h : ofString? s = some v) :
    v = ofText s := by
  unfold ofString? ofBytes? at h
  split at h
  · cases h
    rfl
  · cases h

/-- A text of visible ASCII characters, spaces and tabs, taken byte for byte, reads back as
itself. -/
theorem text?_ofText {s : String}
    (h : ∀ c ∈ s.toList, c.toNat < 128 ∧ isVisibleByte c.val.toUInt8 = true) :
    (ofText s).text? = some s := by
  obtain ⟨v, hv, htext⟩ := ofString?_of_visible h
  rw [← eq_ofText_of_ofString? hv]
  exact htext

end HeaderValue

/-- Header fields in the order they were added; a name may repeat. -/
structure HeaderMap where
  /-- The fields, oldest first. -/
  fields : List (HeaderName × HeaderValue)
  deriving DecidableEq, Repr

namespace HeaderMap

/-- The map with no fields. -/
def empty : HeaderMap := ⟨[]⟩

/-- All values of a name, oldest first. -/
def getAll (m : HeaderMap) (n : HeaderName) : List HeaderValue :=
  (m.fields.filter fun f => f.1 == n).map Prod.snd

/-- The oldest value of a name. -/
def get? (m : HeaderMap) (n : HeaderName) : Option HeaderValue :=
  (m.getAll n).head?

/-- Whether a name has a value. -/
def contains (m : HeaderMap) (n : HeaderName) : Bool :=
  m.fields.any fun f => f.1 == n

/-- Drops every value of a name. -/
def remove (m : HeaderMap) (n : HeaderName) : HeaderMap :=
  ⟨m.fields.filter fun f => f.1 != n⟩

/-- Adds a value after the existing ones. -/
def append (m : HeaderMap) (n : HeaderName) (v : HeaderValue) : HeaderMap :=
  ⟨m.fields ++ [(n, v)]⟩

/-- Makes `v` the only value of a name. -/
def insert (m : HeaderMap) (n : HeaderName) (v : HeaderValue) : HeaderMap :=
  (m.remove n).append n v

/-- The map built by appending the fields in order. -/
def ofList (l : List (HeaderName × HeaderValue)) : HeaderMap := ⟨l⟩

/-- The fields, oldest first. -/
def toList (m : HeaderMap) : List (HeaderName × HeaderValue) := m.fields

/-- After removing a name, the map has no value for it. -/
theorem getAll_remove (m : HeaderMap) (n : HeaderName) : (m.remove n).getAll n = [] := by
  simp [getAll, remove, List.filter_filter]

/-- After `remove`, the name has no value. -/
@[simp] theorem get?_remove (m : HeaderMap) (n : HeaderName) : (m.remove n).get? n = none := by
  simp [get?, getAll_remove]

/-- After `insert`, the inserted value is the name's first and only value. -/
@[simp] theorem getAll_insert (m : HeaderMap) (n : HeaderName) (v : HeaderValue) :
    (m.insert n v).getAll n = [v] := by
  have h := getAll_remove m n
  simp only [getAll] at h
  simp [insert, append, getAll, List.filter_append, h]

/-- After `insert`, the name's first value is the inserted one. -/
@[simp] theorem get?_insert (m : HeaderMap) (n : HeaderName) (v : HeaderValue) :
    (m.insert n v).get? n = some v := by
  simp [get?]

/-- `remove` leaves the values of every other name alone. -/
theorem getAll_remove_of_ne (m : HeaderMap) {n n' : HeaderName} (h : n' ≠ n) :
    (m.remove n).getAll n' = m.getAll n' := by
  simp only [remove, getAll, List.filter_filter]
  congr 1
  apply List.filter_congr
  intro f _
  by_cases hf : f.1 = n'
  · subst hf
    simp [h]
  · simp [hf]

/-- `remove` leaves the first value of every other name alone. -/
theorem get?_remove_of_ne (m : HeaderMap) {n n' : HeaderName} (h : n' ≠ n) :
    (m.remove n).get? n' = m.get? n' := by
  simp [get?, getAll_remove_of_ne m h]

/-- `insert` leaves the values of every other name alone. -/
theorem getAll_insert_of_ne (m : HeaderMap) {n n' : HeaderName} (v : HeaderValue)
    (h : n' ≠ n) : (m.insert n v).getAll n' = m.getAll n' := by
  have h' : (n == n') = false := beq_eq_false_iff_ne.mpr (Ne.symm h)
  simp only [insert, append, remove, getAll, List.filter_append, List.filter_filter,
    List.filter_cons, List.filter_nil, h', Bool.false_eq_true, if_false, List.append_nil]
  congr 1
  apply List.filter_congr
  intro f _
  by_cases hf : f.1 = n'
  · subst hf
    simp [h]
  · simp [hf]

/-- `insert` leaves the first value of every other name alone. -/
theorem get?_insert_of_ne (m : HeaderMap) {n n' : HeaderName} (v : HeaderValue)
    (h : n' ≠ n) : (m.insert n v).get? n' = m.get? n' := by
  simp [get?, getAll_insert_of_ne m v h]

end HeaderMap

end ApiGateway.Http
