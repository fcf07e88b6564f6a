import Mathlib
import ApiGateway.Json.Record
import ApiGateway.Proofs.JsonStrings

/-!
# Compact JSON read back

The writer builds a document from already written values: quoted texts, integers in plain
decimal, and objects of named members separated by commas. This module shows that the reader
takes each of them back:

* a signed 64-bit integer is read as an unsigned or a negative integer, in its class, when a
  comma or a closing brace follows it: no leading zero, no fraction, no exponent;
* the members of an object are read in order, each name as its text and each value as what
  its text reads as.

Main statements:
* `readValue_int`: an integer is read back in its class.
* `read?_object`: a written object whose values read back reads back as the object of those
  values.
-/

namespace ApiGateway.Json

open ApiGateway.Text

/-- The class a reader gives an integer written in decimal. -/
def NumberForm.ofInt (n : Int) : NumberForm := if n < 0 then .negative n else .unsigned n.natAbs

/-- `n` is a signed 64-bit integer. -/
def IsInt64 (n : Int) : Prop := -((maxI64 : Int) + 1) ≤ n ∧ n ≤ maxI64

/-- A signed 64-bit integer in its class is read back as itself. -/
theorem int64?_ofInt {n : Int} (hn : IsInt64 n) : (Tree.number (.ofInt n)).int64? = some n := by
  unfold NumberForm.ofInt
  split
  · rfl
  · rename_i hneg
    have hle : n.natAbs ≤ maxI64 := by
      unfold IsInt64 at hn
      omega
    simp only [Tree.int64?, hle, if_true]
    congr 1
    omega

/-! ## Integers -/

/-- A value that starts with a minus sign or a digit is read as a number. -/
theorem readValue_number {fuel : Nat} {b : UInt8} {bs : List UInt8}
    (hb : b = 0x2D ∨ 0x30 ≤ b.toNat ∧ b.toNat ≤ 0x39) :
    readValue (fuel + 1) (b :: bs) = (readNumber (b :: bs)).map fun r => (.number r.1, r.2) := by
  have hspace : isSpace b = false := by
    rcases hb with rfl | ⟨h1, h2⟩
    · decide
    · simp only [isSpace, Bool.or_eq_false_iff, beq_eq_false_iff_ne, ne_eq]
      refine ⟨⟨⟨?_, ?_⟩, ?_⟩, ?_⟩ <;> rintro rfl <;> simp at h1 h2
  rw [readValue.eq_2, skipSpace_cons _ hspace]
  -- a literal, a string or a container would start with another byte
  split
  all_goals first
    | rfl
    | (rename_i heq; injection heq with hb'; subst hb'; simp at hb)

/-- The byte of a decimal digit is its character's code. -/
theorem digit_byte {c : Char} (h : c.isDigit) :
    c.val.toUInt8.toNat = c.toNat ∧ 0x30 ≤ c.toNat ∧ c.toNat ≤ 0x39 := by
  have hd := Char.isDigit_iff_toNat.1 h
  simp only [Char.reduceToNat] at hd
  refine ⟨?_, hd⟩
  rw [UInt32.toNat_toUInt8]
  exact Nat.mod_eq_of_lt (by simp only [Char.toNat] at hd; omega)

/-- Digits are read up to the first byte that is no digit, with their decimal value. -/
theorem readDigits_digits {ds : List Char} (hd : ∀ c ∈ ds, c.isDigit) (rest : List UInt8)
    (hrest : ∀ b ∈ rest.head?, b.toNat < 0x30 ∨ 0x39 < b.toNat) (v k : Nat) :
    readDigits (ds.map (fun c => c.val.toUInt8) ++ rest) v k =
      (Nat.ofDigitChars 10 ds v, k + ds.length, rest) := by
  induction ds generalizing v k with
  | nil =>
    cases rest with
    | nil => rfl
    | cons b bs =>
      have hb := hrest b rfl
      have hnot : ¬ (0x30 ≤ b ∧ b ≤ 0x39) := by
        rw [UInt8.le_iff_toNat_le, UInt8.le_iff_toNat_le]
        simp only [UInt8.reduceToNat]
        omega
      simp [readDigits, hnot]
  | cons c ds ih =>
    obtain ⟨hbyte, h1, h2⟩ := digit_byte (hd c List.mem_cons_self)
    have hdig : 0x30 ≤ c.val.toUInt8 ∧ c.val.toUInt8 ≤ 0x39 := by
      rw [UInt8.le_iff_toNat_le, UInt8.le_iff_toNat_le, hbyte]
      simp only [UInt8.reduceToNat]
      omega
    rw [List.map_cons, List.cons_append, readDigits,
      if_pos (Bool.and_eq_true_iff.2 ⟨decide_eq_true hdig.1, decide_eq_true hdig.2⟩),
      ih (fun c hc => hd c (List.mem_cons_of_mem _ hc)), Nat.ofDigitChars_cons, hbyte,
      List.length_cons, Nat.mul_comm]
    simp only [Char.reduceToNat, Prod.mk.injEq, true_and, and_true]
    omega

/-- Decimal digits start with a digit, whose byte is its code. -/
theorem toDigits_eq_cons (m : Nat) :
    ∃ d ds, Nat.toDigits 10 m = d :: ds ∧
      d.val.toUInt8.toNat = d.toNat ∧ 0x30 ≤ d.toNat ∧ d.toNat ≤ 0x39 := by
  obtain ⟨d, ds, hds⟩ := List.exists_cons_of_ne_nil (Nat.toDigits_ne_nil (n := m) (b := 10))
  have hd : d ∈ Nat.toDigits 10 m := hds ▸ List.mem_cons_self
  exact ⟨d, ds, hds, digit_byte (Nat.isDigit_of_mem_toDigits (by decide) (by decide) hd)⟩

/-- Decimal digits start with `0` only for zero itself. -/
theorem eq_zero_of_toDigits_head? {m : Nat} (h : (Nat.toDigits 10 m).head? = some '0') :
    m = 0 := by
  induction m using Nat.strong_induction_on with
  | _ m ih =>
    rw [Nat.toDigits_eq_if (by decide)] at h
    split at h
    · rename_i hlt
      have hsingle : ∀ k < 10, Nat.digitChar k = '0' → k = 0 := by decide
      exact hsingle m hlt (by simpa using h)
    · rw [List.head?_append_of_ne_nil _ Nat.toDigits_ne_nil] at h
      have := ih (m / 10) (by omega) h
      omega

/-- Written decimal digits pass the reader's check against a leading zero. -/
theorem toDigits_leadingZero (m : Nat) (rest : List UInt8) :
    ((((Nat.toDigits 10 m).map fun c => c.val.toUInt8) ++ rest).head? == some 0x30 &&
      decide (1 < (Nat.toDigits 10 m).length)) = false := by
  obtain ⟨d, ds, hds, hbyte, -⟩ := toDigits_eq_cons m
  rw [hds]
  by_cases hd : d = '0'
  · -- a leading zero is zero itself, a single digit
    have hm : m = 0 := eq_zero_of_toDigits_head? (by rw [hds, hd]; rfl)
    subst hm
    rw [Nat.toDigits_zero] at hds
    cases hds
    rfl
  · have hne : (some d.val.toUInt8 == some (0x30 : UInt8)) = false := by
      rw [beq_eq_false_iff_ne]
      intro h
      apply hd
      apply Char.toNat_inj.1
      rw [← hbyte, Option.some.inj h]
      rfl
    simp only [List.map_cons, List.cons_append, List.head?_cons, hne, Bool.false_and]

/-- The bytes of an integer: a minus sign when negative, then the digits of its magnitude. -/
theorem int_bytes (n : Int) :
    (int n).toUTF8.toList =
      (if n < 0 then [0x2D] else []) ++ (Nat.toDigits 10 n.natAbs).map fun c => c.val.toUInt8 := by
  have hdigits : (toString n.natAbs).toUTF8.toList =
      (Nat.toDigits 10 n.natAbs).map fun c => c.val.toUInt8 := by
    rw [toUTF8_toList_ascii, Nat.toString_eq_repr, Nat.toList_repr]
    intro c hc
    rw [Nat.toString_eq_repr, Nat.toList_repr] at hc
    have := (digit_byte (Nat.isDigit_of_mem_toDigits (by decide) (by decide) hc)).2.2
    omega
  unfold int
  split
  · rw [toUTF8_toList_append, hdigits, toUTF8_toList_flatMap]
    rfl
  · rw [hdigits]
    rfl

/-- An integer written in decimal starts with a minus sign or a digit. -/
theorem int_bytes_head (n : Int) :
    ∃ b bs, (int n).toUTF8.toList = b :: bs ∧
      (b = 0x2D ∨ 0x30 ≤ b.toNat ∧ b.toNat ≤ 0x39) := by
  rw [int_bytes]
  split
  · exact ⟨_, _, rfl, .inl rfl⟩
  · obtain ⟨d, ds, hds, hbyte, hlow, hhigh⟩ := toDigits_eq_cons n.natAbs
    rw [hds]
    exact ⟨_, _, rfl, .inr ⟨hbyte ▸ hlow, hbyte ▸ hhigh⟩⟩

/-- A signed 64-bit integer followed by a comma or a closing brace is read as a number in its
class: no fraction, no exponent, and the magnitude in range. -/
theorem readNumber_int {n : Int} (hn : IsInt64 n) {e : UInt8} (he : e = 0x2C ∨ e = 0x7D)
    (more : List UInt8) :
    readNumber ((int n).toUTF8.toList ++ e :: more) = some (.ofInt n, e :: more) := by
  have hdigits : ∀ c ∈ Nat.toDigits 10 n.natAbs, c.isDigit :=
    fun c hc => Nat.isDigit_of_mem_toDigits (by decide) (by decide) hc
  have hread := readDigits_digits hdigits (e :: more) (by rcases he with rfl | rfl <;> simp) 0 0
  rw [Nat.ofDigitChars_ten_toDigits, Nat.zero_add] at hread
  have hcount : ((Nat.toDigits 10 n.natAbs).length == 0) = false := by
    simp [Nat.toDigits_ne_nil]
  have hlead := toDigits_leadingZero n.natAbs (e :: more)
  rw [int_bytes]
  by_cases hneg : n < 0
  · rw [if_pos hneg, List.singleton_append, List.cons_append]
    have hform : NumberForm.ofInt n = .negative (-(n.natAbs : Int)) := by
      rw [NumberForm.ofInt, if_pos hneg]
      congr 1
      omega
    have habs : 0 < n.natAbs ∧ n.natAbs ≤ maxI64 + 1 := by
      unfold IsInt64 at hn
      omega
    rcases he with rfl | rfl
    all_goals
      simp only [readNumber, hread, hcount, hlead]
      simp [hform, habs]
  · rw [if_neg hneg, List.nil_append]
    -- the first byte is a digit, so no sign is read
    have hnot : ∀ rest,
        ((Nat.toDigits 10 n.natAbs).map fun c => c.val.toUInt8) ++ e :: more = 0x2D :: rest →
          False := by
      obtain ⟨d, ds, hds, hbyte, hlow, -⟩ := toDigits_eq_cons n.natAbs
      rw [hds]
      intro rest h
      simp only [List.map_cons, List.cons_append, List.cons.injEq] at h
      have h45 := congrArg UInt8.toNat h.1
      rw [hbyte] at h45
      simp only [UInt8.reduceToNat] at h45
      omega
    have hform : NumberForm.ofInt n = .unsigned n.natAbs := by
      rw [NumberForm.ofInt, if_neg hneg]
    have habs : n.natAbs ≤ maxU64 := by
      unfold IsInt64 maxI64 at hn
      unfold maxU64
      omega
    rw [readNumber.eq_2 _ hnot]
    rcases he with rfl | rfl
    all_goals
      simp only [hread, hcount, hlead]
      simp [hform, habs]

/-- A signed 64-bit integer is read back in its class when a comma or a closing brace
follows it. -/
theorem readValue_int {fuel : Nat} {n : Int} (hn : IsInt64 n) {e : UInt8}
    (he : e = 0x2C ∨ e = 0x7D) (more : List UInt8) :
    readValue (fuel + 1) ((int n).toUTF8.toList ++ e :: more) =
      some (.number (.ofInt n), e :: more) := by
  obtain ⟨b, bs, hbs, hb⟩ := int_bytes_head n
  rw [hbs, List.cons_append, readValue_number hb, ← List.cons_append, ← hbs,
    readNumber_int hn he]
  rfl

/-! ## Objects -/

/-- The written value `w` reads back as `t` when a comma or a closing brace follows it. -/
def ReadsAs (w : String) (t : Tree) : Prop :=
  ∀ fuel e more, (e = 0x2C ∨ e = 0x7D) →
    readValue (fuel + 1) (w.toUTF8.toList ++ e :: more) = some (t, e :: more)

/-- A quoted text reads back as that text. -/
theorem readsAs_quote (s : String) : ReadsAs (quote s) (.string (.text s)) :=
  fun _ _ _ _ => readValue_quote s _

/-- A written signed 64-bit integer reads back as that number. -/
theorem readsAs_int {n : Int} (hn : IsInt64 n) : ReadsAs (int n) (.number (.ofInt n)) :=
  fun _ _ more he => readValue_int hn he more

/-- The bytes of a member: its quoted name, a colon and its written value. -/
theorem member_bytes (k w : String) :
    (quote k ++ ":" ++ w).toUTF8.toList = (quote k).toUTF8.toList ++ 0x3A :: w.toUTF8.toList := by
  have hcolon : ":".toUTF8.toList = [0x3A] := by
    rw [toUTF8_toList_flatMap]
    rfl
  rw [toUTF8_toList_append, toUTF8_toList_append, hcolon, List.append_assoc, List.singleton_append]

/-- A member is read by its name, its colon and its value; a comma after it leads to the next
member, and the closing brace ends the object. -/
theorem readFields_member {fuel : Nat} {k w : String} {t : Tree}
    {acc : List (StringForm × Tree)} {e : UInt8} {more : List UInt8} (h : ReadsAs w t)
    (he : e = 0x2C ∨ e = 0x7D) :
    readFields (fuel + 2) ((quote k ++ ":" ++ w).toUTF8.toList ++ e :: more) acc =
      if e = 0x2C then readFields (fuel + 1) more ((.text k, t) :: acc)
      else some (((.text k, t) :: acc).reverse, more) := by
  rw [member_bytes, quote_bytes]
  simp only [List.cons_append, List.append_assoc]
  rw [readFields.eq_2, skipSpace_cons _ (by decide)]
  simp only [List.nil_append, readString_quote, Option.bind_eq_bind, Option.bind_some,
    skipSpace_cons _ (by decide : isSpace 0x3A = false), h fuel e more he]
  rcases he with rfl | rfl
  · simp only [skipSpace_cons _ (by decide : isSpace 0x2C = false), if_pos]
  · simp only [skipSpace_cons _ (by decide : isSpace 0x7D = false),
      if_neg (by decide : (0x7D : UInt8) ≠ 0x2C)]

/-- The members of an object as they are written: each name quoted, a colon, the written
value, and commas between members. -/
def membersText (fields : List (String × String × Tree)) : String :=
  ",".intercalate (fields.map fun f => quote f.1 ++ ":" ++ f.2.1)

/-- The members of a written object are read back in order, each with the value its text
reads as. The reader spends one step per member, and the members take more bytes than that. -/
theorem readFields_membersText {fields : List (String × String × Tree)} (hne : fields ≠ [])
    (h : ∀ f ∈ fields, ReadsAs f.2.1 f.2.2) {fuel : Nat}
    (hfuel : (membersText fields).toUTF8.toList.length ≤ fuel) (acc : List (StringForm × Tree))
    (more : List UInt8) :
    readFields (fuel + 1) ((membersText fields).toUTF8.toList ++ 0x7D :: more) acc =
      some (acc.reverse ++ fields.map fun f => (.text f.1, f.2.2), more) := by
  induction fields generalizing fuel acc with
  | nil => exact absurd rfl hne
  | cons f fs ih =>
    have hmember : 3 ≤ (quote f.1 ++ ":" ++ f.2.1).toUTF8.toList.length := by
      rw [member_bytes, quote_bytes]
      simp only [List.length_append, List.length_cons]
      omega
    cases fs with
    | nil =>
      rw [membersText, List.map_singleton, String.intercalate_singleton] at hfuel ⊢
      obtain ⟨fuel, rfl⟩ : ∃ m, fuel = m + 1 := ⟨fuel - 1, by omega⟩
      rw [readFields_member (h f List.mem_cons_self) (.inr rfl), if_neg (by decide)]
      simp
    | cons g gs =>
      have hsplit : (membersText (f :: g :: gs)).toUTF8.toList =
          (quote f.1 ++ ":" ++ f.2.1).toUTF8.toList ++
            0x2C :: (membersText (g :: gs)).toUTF8.toList := by
        have hcomma : ",".toUTF8.toList = [0x2C] := by
          rw [toUTF8_toList_flatMap]
          rfl
        rw [membersText, membersText, List.map_cons, List.map_cons, String.intercalate_cons_cons,
          toUTF8_toList_append, toUTF8_toList_append, hcomma, List.append_assoc,
          List.singleton_append]
      rw [hsplit] at hfuel ⊢
      simp only [List.length_append, List.length_cons] at hfuel
      obtain ⟨fuel, rfl⟩ : ∃ m, fuel = m + 1 := ⟨fuel - 1, by omega⟩
      rw [List.append_assoc, List.cons_append,
        readFields_member (h f List.mem_cons_self) (.inl rfl), if_pos rfl,
        ih (List.cons_ne_nil g gs) (fun f hf => h f (List.mem_cons_of_mem _ hf)) (by omega)]
      simp

/-- The members of an object start with the quote of the first name. -/
theorem membersText_bytes_head {fields : List (String × String × Tree)} (hne : fields ≠ []) :
    ∃ t, (membersText fields).toUTF8.toList = 0x22 :: t := by
  obtain ⟨f, fs, rfl⟩ := List.exists_cons_of_ne_nil hne
  rw [membersText, List.map_cons, String.append_assoc, String.intercalate_cons_append,
    toUTF8_toList_append, quote_bytes]
  exact ⟨_, rfl⟩

/-- A written object with at least one member, whose values read back, reads back as the
object of those values. -/
theorem read?_object {fields : List (String × String × Tree)} (hne : fields ≠ [])
    (h : ∀ f ∈ fields, ReadsAs f.2.1 f.2.2) :
    read? (object (fields.map fun f => (f.1, f.2.1))).toUTF8.toList =
      some (.object (fields.map fun f => (.text f.1, f.2.2))) := by
  have hobject : (object (fields.map fun f => (f.1, f.2.1))).toUTF8.toList =
      0x7B :: ((membersText fields).toUTF8.toList ++ [0x7D]) := by
    have hopen : "\x7b".toUTF8.toList = [0x7B] := by
      rw [toUTF8_toList_flatMap]
      rfl
    have hclose : "\x7d".toUTF8.toList = [0x7D] := by
      rw [toUTF8_toList_flatMap]
      rfl
    rw [object, List.map_map, toUTF8_toList_append, toUTF8_toList_append, hopen, hclose]
    rfl
  -- the members start with a quote, so the object is not read as empty
  obtain ⟨t, ht⟩ := membersText_bytes_head hne
  have hmembers := readFields_membersText hne h (Nat.le_succ _) [] []
  rw [ht, List.cons_append] at hmembers
  rw [read?, hobject, ht, List.cons_append, readValue.eq_2, skipSpace_cons _ (by decide)]
  simp only [skipSpace_cons _ (by decide : isSpace 0x22 = false), List.length_cons,
    List.length_append, Nat.succ_eq_add_one] at hmembers ⊢
  simp [hmembers, skipSpace]

end ApiGateway.Json
