import Mathlib
import ApiGateway.Config.Printer

/-!
# The theory of settings text

The settings readers cut a text at separators, trim the pieces and read numerals; the writers
of `Config.Printer` join pieces with the same separators and write numbers in decimal. This
module says when the two undo each other, piece by piece:

* splitting what was joined gives back the pieces, when no piece holds the separator;
* a piece without a blank at either end is its own trimming, and trimming twice is trimming
  once;
* the items of a list text (its trimmed, non-empty pieces) are exactly the joined items, when
  none holds the separator, is empty or has a blank at either end, and every item read is so;
* splitting at the first or last occurrence of a character is undone by putting it back;
* an unsigned numeral is an optional `+` and decimal digits, read exactly when its value fits,
  and a number written in decimal reads back as itself;
* a list of reads succeeds exactly when every item does.

Implementation notes: texts are cut with `List.splitOn` and joined with `List.intercalate`, so
the first point is the library's `List.splitOn_intercalate`; what a piece holds is proved here
by induction along `List.splitOn_cons_eq_if_modifyHead`.
-/

namespace ApiGateway.Text

/-! ## Splitting and joining -/

/-- Joining pieces without the separator and splitting again gives back the pieces. -/
theorem splitText_joinText (sep : Char) {items : List String} (hne : items ≠ [])
    (h : ∀ s ∈ items, sep ∉ s.toList) : splitText sep (joinText sep items) = items := by
  have hpieces : ([sep].intercalate (items.map String.toList)).splitOn sep =
      items.map String.toList :=
    List.splitOn_intercalate sep (by simpa using h) (by simpa using hne)
  simp only [splitText, joinText, String.toList_ofList, hpieces, List.map_map]
  conv => rhs; rw [← List.map_id items]
  exact List.map_congr_left fun s _ => String.ofList_toList

/-- A piece cut from a character list holds no separator and is made of characters of the
list. -/
theorem piece_of_mem_splitOn {sep : Char} {cs p : List Char} (hp : p ∈ cs.splitOn sep) :
    sep ∉ p ∧ p ⊆ cs := by
  induction cs generalizing p with
  | nil =>
    rw [List.splitOn_nil, List.mem_singleton] at hp
    subst hp
    exact ⟨List.not_mem_nil, List.nil_subset _⟩
  | cons c cs ih =>
    rw [List.splitOn_cons_eq_if_modifyHead] at hp
    split at hp
    · -- the separator closes an empty piece, and the rest is cut as before
      rcases List.mem_cons.1 hp with rfl | hp
      · exact ⟨List.not_mem_nil, List.nil_subset _⟩
      · exact (ih hp).imp id (List.subset_cons_of_subset c)
    next hc =>
      -- any other character joins the first piece of the rest
      cases hs : cs.splitOn sep with
      | nil => exact absurd hs (List.splitOn_ne_nil sep cs)
      | cons q qs =>
        rw [hs, List.modifyHead_cons] at hp
        rcases List.mem_cons.1 hp with rfl | hp
        · obtain ⟨hq, hsub⟩ := ih (hs ▸ List.mem_cons_self)
          refine ⟨?_, List.cons_subset_cons c hsub⟩
          simp only [List.mem_cons, not_or]
          exact ⟨fun h => hc (by simp [h]), hq⟩
        · exact (ih (hs ▸ List.mem_cons_of_mem q hp)).imp id (List.subset_cons_of_subset c)

/-! ## Trimming -/

/-- Dropping from a list whose first character fails the test drops nothing. -/
theorem dropWhile_eq_self_of_head? {p : Char → Bool} {l : List Char}
    (h : ∀ c ∈ l.head?, p c = false) : l.dropWhile p = l := by
  cases l with
  | nil => rfl
  | cons c l => exact List.dropWhile_cons_of_neg (by simp [h c rfl])

/-- What is left after dropping starts with a character that fails the test. -/
theorem head?_dropWhile_false (p : Char → Bool) (l : List Char) :
    ∀ c ∈ (l.dropWhile p).head?, p c = false := by
  intro c hc
  have hne : l.dropWhile p ≠ [] := by
    intro h
    rw [h] at hc
    cases hc
  have hhead : (l.dropWhile p).head hne = c := by
    rw [List.head?_eq_some_head hne] at hc
    exact Option.some.inj hc
  rw [← hhead]
  exact List.head_dropWhile_not p hne

/-- A character list with no blank at either end is its own trimming. -/
theorem trimList_eq_self {cs : List Char} (hhead : ∀ c ∈ cs.head?, isBlank c = false)
    (hlast : ∀ c ∈ cs.getLast?, isBlank c = false) : trimList cs = cs := by
  have hfront : cs.dropWhile isBlank = cs := dropWhile_eq_self_of_head? hhead
  have hback : cs.reverse.dropWhile isBlank = cs.reverse :=
    dropWhile_eq_self_of_head? (by rwa [List.head?_reverse])
  rw [trimList, hfront, hback, List.reverse_reverse]

/-- A trimmed list ends in no blank. -/
theorem getLast?_trimList (cs : List Char) : ∀ c ∈ (trimList cs).getLast?, isBlank c = false := by
  rw [trimList, List.getLast?_reverse]
  exact head?_dropWhile_false isBlank _

/-- A trimmed list starts with no blank: it is a prefix of the list with its leading blanks
dropped. -/
theorem head?_trimList (cs : List Char) : ∀ c ∈ (trimList cs).head?, isBlank c = false := by
  intro c hc
  have hcut : cs.dropWhile isBlank = trimList cs ++
      (((cs.dropWhile isBlank).reverse.takeWhile isBlank).reverse) := by
    conv => lhs; rw [← List.reverse_reverse (cs.dropWhile isBlank),
      ← List.takeWhile_append_dropWhile (p := isBlank) (l := (cs.dropWhile isBlank).reverse)]
    rw [List.reverse_append, trimList]
  apply head?_dropWhile_false isBlank cs
  rw [hcut, List.head?_append, hc]
  rfl

/-- Trimming keeps only characters of the list. -/
theorem trimList_subset (cs : List Char) : trimList cs ⊆ cs := by
  intro c hc
  rw [trimList, List.mem_reverse] at hc
  exact (List.dropWhile_sublist _).subset
    (List.mem_reverse.1 ((List.dropWhile_sublist _).subset hc))

/-- Trimming twice trims once. -/
theorem trim_trim (s : String) : trim (trim s) = trim s := by
  rw [trim, trim_toList, trimList_eq_self (head?_trimList _) (getLast?_trimList _), trim]

/-- A text that is its own trimming starts and ends with no blank. -/
theorem ends_of_trim_eq {s : String} (h : trim s = s) :
    (∀ c ∈ s.toList.head?, isBlank c = false) ∧ ∀ c ∈ s.toList.getLast?, isBlank c = false := by
  rw [← h, trim_toList]
  exact ⟨head?_trimList _, getLast?_trimList _⟩

/-- A text whose first and last characters are not blank is its own trimming. -/
theorem trim_eq_self {s : String} (hhead : ∀ c ∈ s.toList.head?, isBlank c = false)
    (hlast : ∀ c ∈ s.toList.getLast?, isBlank c = false) : trim s = s := by
  rw [trim, trimList_eq_self hhead hlast, String.ofList_toList]

/-- Two texts joined around a character are their own trimming when the first starts and the
second ends with no blank. -/
theorem trim_eq_self_of_toList_eq {s a b : String} {c : Char}
    (h : s.toList = a.toList ++ c :: b.toList) (ha : a.toList ≠ []) (hb : b.toList ≠ [])
    (hta : trim a = a) (htb : trim b = b) : trim s = s := by
  apply trim_eq_self
  · rw [h, List.head?_append_of_ne_nil _ ha]
    exact (ends_of_trim_eq hta).1
  · rw [h, ← List.singleton_append, ← List.append_assoc, List.getLast?_append_of_ne_nil _ hb]
    exact (ends_of_trim_eq htb).2

/-- A text with a character in it is not empty. -/
theorem ne_empty_of_toList_eq {s : String} {pre post : List Char} {c : Char}
    (h : s.toList = pre ++ c :: post) : s ≠ "" := by
  rintro rfl
  simp at h

/-! ## Items of a text -/

/-- Cutting joined items at the separator, trimming the pieces and dropping the empty ones
gives back the items, when none holds the separator, has a blank at either end or is empty. -/
theorem trimmedPieces_joinText (sep : Char) {items : List String}
    (h : ∀ s ∈ items, sep ∉ s.toList ∧ trim s = s ∧ s ≠ "") :
    trimmedPieces sep (joinText sep items) = items := by
  cases items with
  | nil => rfl
  | cons s rest =>
    have hsplit := splitText_joinText sep (List.cons_ne_nil s rest) fun x hx => (h x hx).1
    unfold trimmedPieces
    rw [hsplit, List.map_congr_left fun x hx => (h x hx).2.1, List.map_id']
    exact List.filter_eq_self.2 fun x hx => by simp [(h x hx).2.2]

/-- A character of joined pieces is the separator or a character of a piece. -/
theorem mem_of_mem_intercalate {sep c : Char} :
    ∀ {ps : List (List Char)}, c ∈ [sep].intercalate ps → c = sep ∨ ∃ p ∈ ps, c ∈ p
  | [], h => by simp at h
  | [p], h => .inr ⟨p, List.mem_singleton_self p, by simpa using h⟩
  | p :: q :: ps, h => by
    rw [List.intercalate_cons_cons] at h
    rcases List.mem_append.1 h with h | h
    · rcases List.mem_append.1 h with h | h
      · exact .inr ⟨p, List.mem_cons_self, h⟩
      · exact .inl (List.mem_singleton.1 h)
    · rcases mem_of_mem_intercalate h with h | ⟨r, hr, hc⟩
      · exact .inl h
      · exact .inr ⟨r, List.mem_cons_of_mem p hr, hc⟩

/-- A character of joined texts is the separator or a character of one of the texts. -/
theorem mem_joinText {sep c : Char} {items : List String} (h : c ∈ (joinText sep items).toList) :
    c = sep ∨ ∃ s ∈ items, c ∈ s.toList := by
  rw [joinText, String.toList_ofList] at h
  rcases mem_of_mem_intercalate h with h | ⟨p, hp, hc⟩
  · exact .inl h
  · obtain ⟨s, hs, rfl⟩ := List.mem_map.1 hp
    exact .inr ⟨s, hs, hc⟩

/-- The last character of joined pieces is the separator or the last character of a piece. -/
theorem getLast?_intercalate {sep c : Char} :
    ∀ {ps : List (List Char)}, c ∈ ([sep].intercalate ps).getLast? →
      c = sep ∨ ∃ p ∈ ps, c ∈ p.getLast?
  | [], h => by simp at h
  | [p], h => .inr ⟨p, List.mem_singleton_self p, by simpa using h⟩
  | p :: q :: ps, h => by
    rw [List.intercalate_cons_cons, List.getLast?_append] at h
    -- the separator ends the text only when the rest is empty
    cases hr : ([sep].intercalate (q :: ps)).getLast? with
    | none =>
      rw [hr, Option.none_or, List.getLast?_append, List.getLast?_singleton] at h
      simp only [Option.some_or, Option.mem_def, Option.some.injEq] at h
      exact .inl h.symm
    | some d =>
      rw [hr] at h
      simp only [Option.some_or, Option.mem_def, Option.some.injEq] at h
      subst h
      rcases getLast?_intercalate hr with h | ⟨r, hr', hc⟩
      · exact .inl h
      · exact .inr ⟨r, List.mem_cons_of_mem p hr', hc⟩

/-- A text starting with `/` is not empty. -/
theorem toList_ne_nil_of_startsWith {p : String} (h : p.startsWith "/" = true) : p.toList ≠ [] := by
  obtain ⟨rest, hrest⟩ := String.startsWith_string_iff.1 h
  rw [← hrest]
  simp

/-- An item cut from a text is made of characters of the text. -/
theorem subset_of_mem_trimmedPieces {sep : Char} {raw item : String}
    (h : item ∈ trimmedPieces sep raw) : item.toList ⊆ raw.toList := by
  simp only [trimmedPieces, List.mem_filter, List.mem_map, splitText] at h
  obtain ⟨⟨piece, ⟨cs, hcs, rfl⟩, rfl⟩, -⟩ := h
  intro c hc
  rw [trim_toList, String.toList_ofList] at hc
  exact (piece_of_mem_splitOn hcs).2 (trimList_subset _ hc)

/-- An item cut from a text holds no separator, is its own trimming and is not empty. -/
theorem mem_trimmedPieces {sep : Char} {raw item : String} (h : item ∈ trimmedPieces sep raw) :
    sep ∉ item.toList ∧ trim item = item ∧ item ≠ "" := by
  simp only [trimmedPieces, List.mem_filter, List.mem_map, splitText, Bool.not_eq_true',
    String.isEmpty_eq_false_iff] at h
  obtain ⟨⟨piece, ⟨cs, hcs, rfl⟩, rfl⟩, hne⟩ := h
  refine ⟨fun hc => (piece_of_mem_splitOn hcs).1 ?_, trim_trim _, hne⟩
  -- trimming keeps only characters of the piece
  rw [trim_toList, String.toList_ofList] at hc
  exact trimList_subset _ hc

/-- A decimal digit is no blank. -/
theorem isBlank_of_isDigit {c : Char} (h : c.isDigit = true) : isBlank c = false := by
  simp only [Char.isDigit, Bool.and_eq_true, decide_eq_true_eq] at h
  have h1 : 48 ≤ c.toNat := UInt32.le_iff_toNat_le.1 h.1
  have h2 : c.toNat ≤ 57 := UInt32.le_iff_toNat_le.1 h.2
  simp only [isBlank, blankRanges, List.any_cons, List.any_nil, Bool.or_false, Bool.or_eq_false_iff,
    Bool.and_eq_false_iff, decide_eq_false_iff_not, Nat.not_le]
  omega

/-! ## Splitting at one occurrence -/

/-- A text cut at a separator whose front holds none is split there. -/
theorem splitFirst_of_toList (sep : Char) {s : String} {a b : List Char}
    (h : s.toList = a ++ sep :: b) (ha : sep ∉ a) :
    splitFirst sep s = some (String.ofList a, String.ofList b) := by
  have hall : ∀ c ∈ a, decide (c ≠ sep) = true := fun c hc => by
    simp only [ne_eq, decide_eq_true_eq]
    rintro rfl
    exact ha hc
  have htake : (a ++ sep :: b).takeWhile (· ≠ sep) = a := by
    rw [List.takeWhile_append_of_pos hall]
    simp
  have hdrop : (a ++ sep :: b).dropWhile (· ≠ sep) = sep :: b := by
    rw [List.dropWhile_append_of_pos hall]
    simp
  simp only [splitFirst, h, List.span_eq_takeWhile_dropWhile, htake, hdrop]

/-- A split at the first occurrence cuts the text there, and the front holds no occurrence. -/
theorem splitFirst_eq_some {sep : Char} {s front back : String}
    (h : splitFirst sep s = some (front, back)) :
    s.toList = front.toList ++ sep :: back.toList ∧ sep ∉ front.toList := by
  unfold splitFirst at h
  dsimp only at h
  rw [List.span_eq_takeWhile_dropWhile] at h
  split at h
  · cases h
  next f c rest hspan =>
    simp only [Prod.mk.injEq] at hspan
    obtain ⟨htake, hdrop⟩ := hspan
    simp only [Option.some.injEq, Prod.mk.injEq] at h
    obtain ⟨rfl, rfl⟩ := h
    -- the first character that stops the prefix is the separator
    have hc : c = sep := by
      have := List.head_dropWhile_not (fun x => decide (x ≠ sep)) (l := s.toList)
        (by rw [hdrop]; exact List.cons_ne_nil c rest)
      simp only [hdrop, List.head_cons, decide_eq_false_iff_not, not_not] at this
      exact this
    subst hc
    refine ⟨?_, ?_⟩
    · rw [String.toList_ofList, String.toList_ofList, ← htake, ← hdrop,
        List.takeWhile_append_dropWhile]
    · rw [String.toList_ofList, ← htake]
      intro hm
      simpa using List.mem_takeWhile_imp hm

/-- A text is not split at its first separator exactly when it holds none. -/
theorem splitFirst_eq_none_iff {sep : Char} {s : String} :
    splitFirst sep s = none ↔ sep ∉ s.toList := by
  unfold splitFirst
  dsimp only
  rw [List.span_eq_takeWhile_dropWhile]
  constructor
  · intro h hm
    split at h
    next f hspan =>
      simp only [Prod.mk.injEq] at hspan
      have := List.dropWhile_eq_nil_iff.1 hspan.2 sep hm
      simp at this
    · cases h
  · intro h
    have hdrop : s.toList.dropWhile (· ≠ sep) = [] :=
      List.dropWhile_eq_nil_iff.2 fun c hc => by
        simp only [ne_eq, decide_eq_true_eq]
        rintro rfl
        exact h hc
    rw [hdrop]

/-- A text cut at a separator whose back holds none is split there. -/
theorem splitLast_of_toList (sep : Char) {s : String} {a b : List Char}
    (h : s.toList = a ++ sep :: b) (hb : sep ∉ b) :
    splitLast sep s = some (String.ofList a, String.ofList b) := by
  have hrev : (String.ofList s.toList.reverse).toList = b.reverse ++ sep :: a.reverse := by
    simp [h]
  rw [splitLast, splitFirst_of_toList sep hrev (by simpa using hb)]
  simp

/-- A split at the last occurrence cuts the text there, and the back holds no occurrence. -/
theorem splitLast_eq_some {sep : Char} {s front back : String}
    (h : splitLast sep s = some (front, back)) :
    s.toList = front.toList ++ sep :: back.toList ∧ sep ∉ back.toList := by
  unfold splitLast at h
  split at h
  · cases h
  next b' f' hsplit =>
    simp only [Option.some.injEq, Prod.mk.injEq] at h
    obtain ⟨rfl, rfl⟩ := h
    obtain ⟨hl, hnot⟩ := splitFirst_eq_some hsplit
    have hl' := congrArg List.reverse hl
    simp only [String.toList_ofList, List.reverse_reverse, List.reverse_append,
      List.reverse_cons] at hl'
    refine ⟨?_, by simpa using hnot⟩
    simp [hl']

/-- A text is not split at its last separator exactly when it holds none. -/
theorem splitLast_eq_none_iff {sep : Char} {s : String} :
    splitLast sep s = none ↔ sep ∉ s.toList := by
  unfold splitLast
  split
  next h => simpa using splitFirst_eq_none_iff.1 h
  next b' f' h =>
    simp only [reduceCtorEq, false_iff, not_not]
    have := (splitFirst_eq_some h).1
    simp only [String.toList_ofList] at this
    exact List.mem_reverse.1 (this ▸ List.mem_append_right _ List.mem_cons_self)

/-! ## Numerals -/

/-- Reading more digits never lowers the value read so far. -/
theorem le_ofDigitChars (cs : List Char) (acc : Nat) : acc ≤ Nat.ofDigitChars 10 cs acc := by
  rw [Nat.ofDigitChars_eq_ofDigitChars_zero]
  exact Nat.le_add_right_of_le (Nat.le_mul_of_pos_left acc (Nat.pow_pos (by decide)))

/-- Digits read onto a value within the limit succeed exactly when all are digits and the
whole value fits: the value only grows, so no prefix passes the limit before the end. -/
theorem accumulate_eq_ok_iff (limit : Nat) (overflow : NumeralError) {acc : Nat} (cs : List Char)
    (n : Nat) (hacc : acc ≤ limit) :
    accumulate limit overflow acc cs = .ok n ↔
      (∀ c ∈ cs, c.isDigit) ∧ Nat.ofDigitChars 10 cs acc = n ∧ n ≤ limit := by
  induction cs generalizing acc with
  | nil =>
    simp only [accumulate, Except.ok.injEq, List.not_mem_nil, IsEmpty.forall_iff, implies_true,
      Nat.ofDigitChars_nil, true_and]
    constructor
    · rintro rfl
      exact ⟨rfl, hacc⟩
    · exact fun h => h.1
  | cons c cs ih =>
    rw [accumulate, Nat.ofDigitChars_cons]
    by_cases hc : c.isDigit
    · by_cases hv : acc * 10 + (c.toNat - '0'.toNat) ≤ limit
      · rw [if_pos hc, if_pos hv, ih hv, Nat.mul_comm]
        simp [hc]
      · rw [if_pos hc, if_neg hv]
        simp only [reduceCtorEq, false_iff, not_and]
        intro _ hn hle
        have := le_ofDigitChars cs (10 * acc + (c.toNat - '0'.toNat))
        omega
    · rw [if_neg hc]
      simp [hc]

/-- `s` spells `n` as an unsigned numeral: an optional `+`, then one or more decimal digits of
value `n`. -/
def UnsignedNumeral (s : String) (n : Nat) : Prop :=
  ∃ ds, (s.toList = ds ∨ s.toList = '+' :: ds) ∧ ds ≠ [] ∧ (∀ c ∈ ds, c.isDigit) ∧
    Nat.ofDigitChars 10 ds 0 = n

/-- An unsigned numeral reads exactly when it is an optional `+` and decimal digits whose value
fits the range. -/
theorem readUnsigned_eq_ok_iff (limit : Nat) (s : String) (n : Nat) :
    readUnsigned limit s = .ok n ↔ UnsignedNumeral s n ∧ n ≤ limit := by
  unfold readUnsigned UnsignedNumeral
  split
  next h =>
    refine ⟨fun hr => (nomatch hr), ?_⟩
    rintro ⟨⟨ds, hds | hds, hne, -⟩, -⟩ <;> rw [h] at hds
    · exact absurd hds.symm hne
    · cases hds
  next h =>
    refine ⟨fun hr => (nomatch hr), ?_⟩
    rintro ⟨⟨ds, hds | hds, hne, hd, -⟩, -⟩ <;> rw [h] at hds
    · subst hds
      exact absurd (hd '+' List.mem_cons_self) (by decide)
    · cases hds
      exact absurd rfl hne
  next h =>
    refine ⟨fun hr => (nomatch hr), ?_⟩
    rintro ⟨⟨ds, hds | hds, -, hd, -⟩, -⟩ <;> rw [h] at hds
    · subst hds
      exact absurd (hd '-' List.mem_cons_self) (by decide)
    · cases hds
  next ds' hne h =>
    rw [accumulate_eq_ok_iff _ _ _ _ (Nat.zero_le _)]
    constructor
    · rintro ⟨hd, hv, hle⟩
      exact ⟨⟨ds', .inr h, hne, hd, hv⟩, hle⟩
    · rintro ⟨⟨ds, hds | hds, -, hd, hv⟩, hle⟩ <;> rw [h] at hds
      · -- the sign would have to be a digit
        subst hds
        exact absurd (hd '+' List.mem_cons_self) (by decide)
      · cases hds
        exact ⟨hd, hv, hle⟩
  next h0 _ _ hplus =>
    rw [accumulate_eq_ok_iff _ _ _ _ (Nat.zero_le _)]
    constructor
    · rintro ⟨hd, hv, hle⟩
      exact ⟨⟨s.toList, .inl rfl, h0, hd, hv⟩, hle⟩
    · rintro ⟨⟨ds, hds | hds, -, hd, hv⟩, hle⟩
      · subst hds
        exact ⟨hd, hv, hle⟩
      · exact absurd hds (hplus ds)

/-- A number in the range, written in decimal, reads back as itself. -/
theorem readUnsigned_toString {limit n : Nat} (h : n ≤ limit) :
    readUnsigned limit (toString n) = .ok n := by
  rw [readUnsigned_eq_ok_iff]
  refine ⟨⟨Nat.toDigits 10 n, .inl ?_, Nat.toDigits_ne_nil,
    fun c hc => Nat.isDigit_of_mem_toDigits (by decide) (by decide) hc,
    Nat.ofDigitChars_ten_toDigits⟩, h⟩
  rw [Nat.toString_eq_repr, Nat.toList_repr]

/-- A number written in decimal has no blank at either end. -/
theorem trim_toString (n : Nat) : trim (toString n) = toString n := by
  have hdigit : ∀ c ∈ (toString n).toList, isBlank c = false := fun c hc => by
    rw [Nat.toString_eq_repr, Nat.toList_repr] at hc
    exact isBlank_of_isDigit (Nat.isDigit_of_mem_toDigits (by decide) (by decide) hc)
  rw [trim, trimList_eq_self (fun c hc => hdigit c (List.mem_of_mem_head? hc))
    (fun c hc => hdigit c (List.mem_of_mem_getLast? hc)), String.ofList_toList]

end ApiGateway.Text

namespace ApiGateway.Config

/-! ## Lists of reads -/

section MapM

variable {α β ε : Type}

/-- Reading what a writer wrote, item by item, gives back the items when each reads back. -/
theorem mapM_map_eq_ok {f : β → Except ε α} {g : α → β} {l : List α}
    (h : ∀ a ∈ l, f (g a) = .ok a) : (l.map g).mapM f = .ok l := by
  induction l with
  | nil => rfl
  | cons a l ih =>
    rw [List.map_cons, List.mapM_cons, h a List.mem_cons_self,
      ih fun b hb => h b (List.mem_cons_of_mem a hb)]
    rfl

/-- A list of reads that succeeds on `x :: l` read `x`, then read `l`. -/
theorem mapM_cons_eq_ok {f : β → Except ε α} {x : β} {l : List β} {l' : List α}
    (h : (x :: l).mapM f = .ok l') : ∃ y ys, f x = .ok y ∧ l.mapM f = .ok ys ∧ l' = y :: ys := by
  rw [List.mapM_cons] at h
  cases hx : f x with
  | error e => rw [hx] at h; cases h
  | ok y =>
    cases hl : l.mapM f with
    | error e => rw [hx] at h; simp [hl, bind, Except.bind] at h
    | ok ys =>
      rw [hx] at h
      simp only [hl, bind, Except.bind, pure, Except.pure, Except.ok.injEq] at h
      exact ⟨y, ys, rfl, rfl, h.symm⟩

/-- Reading a first item and then the rest gives both. -/
theorem mapM_cons_of_ok {f : β → Except ε α} {x : β} {l : List β} {y : α} {ys : List α}
    (hx : f x = .ok y) (hl : l.mapM f = .ok ys) : (x :: l).mapM f = .ok (y :: ys) := by
  rw [List.mapM_cons, hx, hl]
  rfl

/-- The reads of two lists one after the other give the two results one after the other. -/
theorem mapM_append_eq_ok {f : β → Except ε α} {l₁ l₂ : List β} {r : List α}
    (h : (l₁ ++ l₂).mapM f = .ok r) :
    ∃ r₁ r₂, r = r₁ ++ r₂ ∧ l₁.mapM f = .ok r₁ ∧ l₂.mapM f = .ok r₂ := by
  rw [List.mapM_append] at h
  cases h₁ : l₁.mapM f with
  | error e => rw [h₁] at h; cases h
  | ok r₁ =>
    cases h₂ : l₂.mapM f with
    | error e => rw [h₁, h₂] at h; cases h
    | ok r₂ =>
      rw [h₁, h₂] at h
      cases h
      exact ⟨r₁, r₂, rfl, rfl, rfl⟩

/-- A list of reads whose result has `y` between `r₁` and `r₂` read `y` from one item, with the
items before it read as `r₁` and those after it as `r₂`. -/
theorem mapM_eq_ok_append_cons {f : β → Except ε α} {l : List β} {r₁ r₂ : List α} {y : α}
    (h : l.mapM f = .ok (r₁ ++ y :: r₂)) :
    ∃ l₁ x l₂, l = l₁ ++ x :: l₂ ∧ l₁.mapM f = .ok r₁ ∧ f x = .ok y ∧ l₂.mapM f = .ok r₂ := by
  induction r₁ generalizing l with
  | nil =>
    cases l with
    | nil => cases h
    | cons x l =>
      obtain ⟨y', ys, hx, hl, heq⟩ := mapM_cons_eq_ok h
      obtain ⟨rfl, rfl⟩ := List.cons.inj heq
      exact ⟨[], x, l, rfl, rfl, hx, hl⟩
  | cons z r₁ ih =>
    cases l with
    | nil => cases h
    | cons x l =>
      obtain ⟨z', zs, hx, hl, heq⟩ := mapM_cons_eq_ok h
      obtain ⟨rfl, rfl⟩ := List.cons.inj heq
      obtain ⟨l₁, w, l₂, rfl, h₁, hw, h₂⟩ := ih hl
      exact ⟨x :: l₁, w, l₂, rfl, mapM_cons_of_ok hx h₁, hw, h₂⟩

/-- The read of an item is among the results of a successful list of reads. -/
theorem mem_of_mapM_of_mem {f : β → Except ε α} {l : List β} {r : List α}
    (h : l.mapM f = .ok r) {x : β} {y : α} (hx : x ∈ l) (hy : f x = .ok y) : y ∈ r := by
  induction l generalizing r with
  | nil => cases hx
  | cons z l ih =>
    obtain ⟨y', ys, hz, hl, rfl⟩ := mapM_cons_eq_ok h
    rcases List.mem_cons.1 hx with rfl | hx
    · rw [hz] at hy
      cases hy
      exact List.mem_cons_self
    · exact List.mem_cons_of_mem _ (ih hl hx)

/-- Each result of a successful list of reads is the read of one of the items. -/
theorem mem_of_mapM_eq_ok {f : β → Except ε α} {l : List β} {l' : List α}
    (h : l.mapM f = .ok l') : ∀ y ∈ l', ∃ x ∈ l, f x = .ok y := by
  induction l generalizing l' with
  | nil =>
    cases h
    simp
  | cons x l ih =>
    obtain ⟨y, ys, hx, hl, rfl⟩ := mapM_cons_eq_ok h
    intro z hz
    rcases List.mem_cons.1 hz with rfl | hz
    · exact ⟨x, List.mem_cons_self, hx⟩
    · obtain ⟨w, hw, hfw⟩ := ih hl z hz
      exact ⟨w, List.mem_cons_of_mem x hw, hfw⟩

/-- Reading items one by one gives one result for each. -/
theorem length_of_mapM_eq_ok {f : β → Except ε α} {l : List β} {l' : List α}
    (h : l.mapM f = .ok l') : l'.length = l.length := by
  induction l generalizing l' with
  | nil => cases h; rfl
  | cons x l ih =>
    obtain ⟨y, ys, -, hl, rfl⟩ := mapM_cons_eq_ok h
    rw [List.length_cons, List.length_cons, ih hl]

/-- A list of reads fails exactly when one of its items does. -/
theorem mapM_eq_error_iff {f : β → Except ε α} {l : List β} :
    (∃ e, l.mapM f = .error e) ↔ ∃ x ∈ l, ∃ e, f x = .error e := by
  induction l with
  | nil => simp [pure, Except.pure]
  | cons x l ih =>
    rw [List.mapM_cons]
    simp only [List.mem_cons, exists_eq_or_imp]
    cases hx : f x with
    | error e => simp [bind, Except.bind]
    | ok y =>
      -- the head is read, so the list fails exactly when its tail does
      have htail : (∃ e, (l.mapM f >>= fun bs => pure (y :: bs) : Except ε (List α)) = .error e) ↔
          ∃ e, l.mapM f = .error e := by
        cases l.mapM f <;> simp [bind, Except.bind, pure, Except.pure]
      simp only [bind, Except.bind] at htail ⊢
      rw [htail, ih]
      simp

end MapM

end ApiGateway.Config
