import Mathlib
import ApiGateway.Proofs.SettingsText

/-!
# Restricted-route tables in settings text

A restricted-route table is written as its entries `/prefix=addr|addr` joined by `;`, in prefix
order. Reading cuts the text at the `;`, trims the pieces, drops the empty ones and reads each
item: it splits the item at its first `=`, trims the prefix, which must start with `/`, and cuts
the rest at `|` into trimmed, non-empty addresses, in order and with their repeats. The items
then fill a map one after the other, so a prefix that repeats keeps the addresses of its last
item.

Main statements:
* `restrictions_round_trip`: reading gives back every map whose entries can be written
  (`WritableRestriction`), each address list with its order and repeats; so writing what was
  read and reading again gives what was read; a prefix finds the addresses of its last item; and
  a text is refused exactly when one of its items has no `=` or a trimmed prefix that does not
  start with `/`.

Implementation notes: a `NameMap` lists its entries in ascending prefix order, one per prefix,
and is rebuilt from its own entries (`NameMap.ofList_toList`), so the entries written in that
order fill the same map again.
-/

namespace ApiGateway.Config

open ApiGateway.Text

/-- The text of one table entry, `prefix=addr|addr`. -/
def restrictionItem (e : String × List String) : String := e.1 ++ "=" ++ joinText '|' e.2

/-- A table is written as its entries joined by `;`, in prefix order. -/
theorem renderRestrictions_eq (m : NameMap (List String)) :
    renderRestrictions m = joinText ';' (m.toList.map restrictionItem) := rfl

/-- The characters of an entry: the prefix, `=` and the addresses joined by `|`. -/
theorem restrictionItem_toList (e : String × List String) :
    (restrictionItem e).toList = e.1.toList ++ '=' :: (joinText '|' e.2).toList := by
  simp [restrictionItem, String.toList_append]

/-- A restricted-route entry the writer writes in a form the reader gives back: a prefix that
starts with `/` and holds no `;`, no `=` and no blank at either end, and addresses that hold no
`|`, no blank at either end and no `;`, and are not empty. -/
structure WritableRestriction (e : String × List String) : Prop where
  slash : e.1.startsWith "/" = true
  prefixNoSemicolon : ';' ∉ e.1.toList
  prefixNoEquals : '=' ∉ e.1.toList
  prefixTrimmed : trim e.1 = e.1
  addresses : ∀ a ∈ e.2, '|' ∉ a.toList ∧ trim a = a ∧ a ≠ "" ∧ ';' ∉ a.toList

/-! ## Reading one item -/

/-- An item reads as an entry exactly when it has a `=` and the trimmed text before the first
`=` starts with `/`; the entry is that prefix with the trimmed, non-empty pieces between `|` of
the text after it. -/
theorem readRestriction_eq_ok_iff (item : String) (e : String × List String) :
    readRestriction item = .ok e ↔ ∃ front back, splitFirst '=' item = some (front, back) ∧
      e = (trim front, trimmedPieces '|' back) ∧ (trim front).startsWith "/" = true := by
  unfold readRestriction
  cases splitFirst '=' item with
  | none => simp
  | some p =>
    obtain ⟨front, back⟩ := p
    dsimp only
    split
    next hs =>
      constructor
      · intro h
        cases h
        exact ⟨front, back, rfl, rfl, hs⟩
      · rintro ⟨f, b, hfb, rfl, -⟩
        cases hfb
        rfl
    next hs =>
      constructor
      · intro h
        cases h
      · rintro ⟨f, b, hfb, rfl, hs'⟩
        cases hfb
        exact absurd hs' hs

/-- An item is refused exactly when it has no `=` or its trimmed prefix does not start with
`/`. -/
theorem readRestriction_eq_error_iff (item : String) :
    (∃ err, readRestriction item = .error err) ↔ '=' ∉ item.toList ∨
      ∃ front back, splitFirst '=' item = some (front, back) ∧
        (trim front).startsWith "/" = false := by
  unfold readRestriction
  cases hs : splitFirst '=' item with
  | none => simp [splitFirst_eq_none_iff.1 hs]
  | some p =>
    obtain ⟨front, back⟩ := p
    have heq : '=' ∈ item.toList := by
      rw [(splitFirst_eq_some hs).1]
      exact List.mem_append_right _ List.mem_cons_self
    dsimp only
    split
    next hp =>
      refine ⟨fun ⟨_, h⟩ => (by cases h), ?_⟩
      rintro (hno | ⟨f, b, hfb, hf⟩)
      · exact absurd heq hno
      · cases hfb
        rw [hp] at hf
        cases hf
    next hp => exact ⟨fun _ => .inr ⟨front, back, rfl, Bool.of_not_eq_true hp⟩, fun _ => ⟨_, rfl⟩⟩

/-- A table reads when all its items do, and is the map the entries fill in order. -/
theorem readRestrictions_eq_ok_iff (raw : String) (m : NameMap (List String)) :
    readRestrictions raw = .ok m ↔ ∃ entries,
      (trimmedPieces ';' raw).mapM readRestriction = .ok entries ∧ m = NameMap.ofList entries := by
  unfold readRestrictions
  cases (trimmedPieces ';' raw).mapM readRestriction with
  | error err => simp [bind, Except.bind]
  | ok entries => simp [bind, Except.bind, pure, Except.pure, eq_comm]

/-- A table is refused exactly when one of its items is. -/
theorem readRestrictions_eq_error_iff (raw : String) :
    (∃ err, readRestrictions raw = .error err) ↔
      ∃ err, (trimmedPieces ';' raw).mapM readRestriction = .error err := by
  unfold readRestrictions
  cases (trimmedPieces ';' raw).mapM readRestriction with
  | error err => simp [bind, Except.bind]
  | ok entries => simp [bind, Except.bind, pure, Except.pure]

/-! ## Writing and reading back -/

/-- A written entry reads back as itself, its addresses in order. -/
theorem readRestriction_restrictionItem {e : String × List String} (h : WritableRestriction e) :
    readRestriction (restrictionItem e) = .ok e := by
  have hsplit : splitFirst '=' (restrictionItem e) = some (e.1, joinText '|' e.2) := by
    rw [splitFirst_of_toList '=' (restrictionItem_toList e) h.prefixNoEquals,
      String.ofList_toList, String.ofList_toList]
  have haddresses : trimmedPieces '|' (joinText '|' e.2) = e.2 :=
    trimmedPieces_joinText '|' fun a ha => ⟨(h.addresses a ha).1, (h.addresses a ha).2.1,
      (h.addresses a ha).2.2.1⟩
  refine (readRestriction_eq_ok_iff _ _).2 ⟨e.1, joinText '|' e.2, hsplit, ?_, ?_⟩
  · rw [h.prefixTrimmed, haddresses]
  · rw [h.prefixTrimmed]
    exact h.slash

/-- A written item ends with no blank: its last character is the `=`, a `|` or the last
character of an address. -/
theorem getLast?_restrictionItem {e : String × List String} (h : WritableRestriction e) :
    ∀ c ∈ (restrictionItem e).toList.getLast?, isBlank c = false := by
  intro c hc
  rw [restrictionItem_toList, List.getLast?_append, List.getLast?_cons] at hc
  simp only [Option.some_or, Option.mem_def, Option.some.injEq] at hc
  cases hlast : (joinText '|' e.2).toList.getLast? with
  | none =>
    rw [hlast] at hc
    subst hc
    decide
  | some d =>
    rw [hlast] at hc
    subst hc
    rw [joinText, String.toList_ofList] at hlast
    rcases getLast?_intercalate hlast with rfl | ⟨p, hp, hd⟩
    · decide
    · obtain ⟨a, ha, rfl⟩ := List.mem_map.1 hp
      exact (ends_of_trim_eq (h.addresses a ha).2.1).2 _ hd

/-- A written item holds no `;`, is not empty, and has no blank at either end. -/
theorem restrictionItem_plain {e : String × List String} (h : WritableRestriction e) :
    ';' ∉ (restrictionItem e).toList ∧ trim (restrictionItem e) = restrictionItem e ∧
      restrictionItem e ≠ "" := by
  have hprefix := toList_ne_nil_of_startsWith h.slash
  refine ⟨?_, ?_, ?_⟩
  · rw [restrictionItem_toList]
    simp only [List.mem_append, List.mem_cons, not_or]
    refine ⟨h.prefixNoSemicolon, by decide, fun hc => ?_⟩
    -- a `;` of the addresses would be a `|` or a character of an address
    rcases mem_joinText hc with hc | ⟨a, ha, hc⟩
    · exact absurd hc (by decide)
    · exact (h.addresses a ha).2.2.2 hc
  · apply trim_eq_self _ (getLast?_restrictionItem h)
    rw [restrictionItem_toList, List.head?_append_of_ne_nil _ hprefix]
    exact (ends_of_trim_eq h.prefixTrimmed).1
  · exact ne_empty_of_toList_eq (restrictionItem_toList e)

/-- A map of writable entries, written and read back, is itself. -/
theorem readRestrictions_renderRestrictions {m : NameMap (List String)}
    (h : ∀ e ∈ m.toList, WritableRestriction e) :
    readRestrictions (renderRestrictions m) = .ok m := by
  have hitems : trimmedPieces ';' (renderRestrictions m) = m.toList.map restrictionItem := by
    rw [renderRestrictions_eq]
    apply trimmedPieces_joinText
    intro s hs
    obtain ⟨e, he, rfl⟩ := List.mem_map.1 hs
    exact restrictionItem_plain (h e he)
  rw [readRestrictions_eq_ok_iff, hitems]
  exact ⟨m.toList, mapM_map_eq_ok fun e he => readRestriction_restrictionItem (h e he),
    (NameMap.ofList_toList m).symm⟩

/-- Every entry read from an item of a table can be written back. -/
theorem writable_of_readRestriction {raw item : String} {e : String × List String}
    (hitem : item ∈ trimmedPieces ';' raw) (h : readRestriction item = .ok e) :
    WritableRestriction e := by
  obtain ⟨front, back, hsplit, rfl, hslash⟩ := (readRestriction_eq_ok_iff item e).1 h
  obtain ⟨hsemi, -, -⟩ := mem_trimmedPieces hitem
  obtain ⟨hl, hnot⟩ := splitFirst_eq_some hsplit
  -- the prefix comes from the text before the first `=`, the addresses from the text after it
  have hfront : ∀ c ∈ (trim front).toList, c ∈ front.toList := fun c hc =>
    trimList_subset _ (by rwa [trim_toList] at hc)
  have hback : ∀ c ∈ back.toList, c ∈ item.toList := fun c hc => by
    rw [hl]
    exact List.mem_append_right _ (List.mem_cons_of_mem _ hc)
  refine ⟨hslash, fun hc => hsemi ?_, fun hc => hnot (hfront _ hc), trim_trim front, ?_⟩
  · rw [hl]
    exact List.mem_append_left _ (hfront _ hc)
  · intro a ha
    obtain ⟨hbar, htrim, hne⟩ := mem_trimmedPieces ha
    exact ⟨hbar, htrim, hne, fun hc => hsemi (hback _ (subset_of_mem_trimmedPieces ha hc))⟩

/-- Every entry of a map read from a table can be written back. -/
theorem writable_of_readRestrictions {raw : String} {m : NameMap (List String)}
    (h : readRestrictions raw = .ok m) : ∀ e ∈ m.toList, WritableRestriction e := by
  intro e he
  obtain ⟨entries, hread, rfl⟩ := (readRestrictions_eq_ok_iff raw m).1 h
  obtain ⟨item, hitem, hentry⟩ := mem_of_mapM_eq_ok hread e (NameMap.mem_ofList he)
  exact writable_of_readRestriction hitem hentry

/-! ## Repeated prefixes -/

/-- In a map read from a table, a prefix finds the addresses of the last item with that
prefix. -/
theorem find?_readRestrictions {raw : String} {m : NameMap (List String)}
    (h : readRestrictions raw = .ok m) (p : String) (ips : List String) :
    m.find? p = some ips ↔ ∃ pre item post, trimmedPieces ';' raw = pre ++ item :: post ∧
      readRestriction item = .ok (p, ips) ∧
      ∀ later ∈ post, ∀ e, readRestriction later = .ok e → e.1 ≠ p := by
  obtain ⟨entries, hread, rfl⟩ := (readRestrictions_eq_ok_iff raw m).1 h
  rw [NameMap.find?_ofList_eq_some_iff]
  constructor
  · rintro ⟨before, after, rfl, hafter⟩
    obtain ⟨pre, item, post, hitems, -, hitem, hpost⟩ := mapM_eq_ok_append_cons hread
    exact ⟨pre, item, post, hitems, hitem, fun later hl e he =>
      hafter e (mem_of_mapM_of_mem hpost hl he)⟩
  · rintro ⟨pre, item, post, hitems, hitem, hlater⟩
    rw [hitems] at hread
    obtain ⟨before, rest, rfl, -, hrest⟩ := mapM_append_eq_ok hread
    -- the item read as `(p, ips)` heads the reads of the rest
    obtain ⟨y, after, hy, hpost, rfl⟩ := mapM_cons_eq_ok hrest
    rw [hitem] at hy
    cases hy
    refine ⟨before, after, rfl, fun e he => ?_⟩
    obtain ⟨later, hl, he'⟩ := mem_of_mapM_eq_ok hpost e he
    exact hlater later hl e he'

/-! ## Main statement -/

/-- Writing and reading restricted-route tables: a map whose prefixes start with `/`
and hold no `;`, no `=` and no blank at either end, and whose addresses are non-empty and hold
no `|`, no `;` and no blank at either end, is read back as itself, each address list in order
and with its repeats; so writing what was read and reading again gives what was read; a prefix
that repeats keeps the addresses of its last item; and a text is refused exactly when one of
its non-blank `;`-separated items has no `=` or a trimmed prefix that does not start with
`/`. -/
theorem restrictions_round_trip :
    (∀ m : NameMap (List String), (∀ e ∈ m.toList, WritableRestriction e) →
        readRestrictions (renderRestrictions m) = .ok m) ∧
      (∀ raw m, readRestrictions raw = .ok m →
        readRestrictions (renderRestrictions m) = readRestrictions raw) ∧
      (∀ raw m, readRestrictions raw = .ok m → ∀ p ips, m.find? p = some ips ↔
        ∃ pre item post, trimmedPieces ';' raw = pre ++ item :: post ∧
          readRestriction item = .ok (p, ips) ∧
          ∀ later ∈ post, ∀ e, readRestriction later = .ok e → e.1 ≠ p) ∧
      ∀ raw, (∃ err, readRestrictions raw = .error err) ↔
        ∃ item ∈ trimmedPieces ';' raw, '=' ∉ item.toList ∨
          ∃ front back, splitFirst '=' item = some (front, back) ∧
            (trim front).startsWith "/" = false := by
  refine ⟨fun m h => readRestrictions_renderRestrictions h, fun raw m h => ?_,
    fun raw m h => find?_readRestrictions h, fun raw => ?_⟩
  · rw [h]
    exact readRestrictions_renderRestrictions (writable_of_readRestrictions h)
  · rw [readRestrictions_eq_error_iff, mapM_eq_error_iff]
    exact exists_congr fun item => and_congr_right fun _ => readRestriction_eq_error_iff item

end ApiGateway.Config
