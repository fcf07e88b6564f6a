import Mathlib
import ApiGateway.Proofs.SettingsText

/-!
# Prefix tables in settings text

A prefix table is written as its entries `/prefix=route` joined by `,`. Reading cuts the text at
the commas, trims the pieces, drops the empty ones and reads each item: it splits the item at its
first `=`, trims both sides, and takes the pair when the prefix starts with `/` and the route is
not empty. The table keeps the order and the repeats of its items, and a route may itself hold
`=`.

Main statements:
* `prefixTable_round_trip`: reading gives back every table whose entries can be written
  (`WritablePrefixEntry`), in order; so writing what was read and reading again gives what was
  read; and a text is refused exactly when one of its items has no `=`, a trimmed prefix that
  does not start with `/`, or an empty trimmed route.
-/

namespace ApiGateway.Config

open ApiGateway.Text

/-- The text of one table entry, `prefix=route`. -/
def prefixItem (e : String × String) : String := e.1 ++ "=" ++ e.2

/-- A table is written as its entries joined by commas. -/
theorem renderPrefixTable_eq (t : List (String × String)) :
    renderPrefixTable t = joinText ',' (t.map prefixItem) := rfl

/-- The characters of an entry: the prefix, `=` and the route. -/
theorem prefixItem_toList (e : String × String) :
    (prefixItem e).toList = e.1.toList ++ '=' :: e.2.toList := by
  simp [prefixItem, String.toList_append]

/-- A table entry the writer writes in a form the reader gives back: a prefix that starts with
`/` and a non-empty route, neither holding a comma or a blank at either end, and a prefix without
`=`, since an item splits at its first `=`. -/
structure WritablePrefixEntry (e : String × String) : Prop where
  slash : e.1.startsWith "/" = true
  prefixNoComma : ',' ∉ e.1.toList
  prefixNoEquals : '=' ∉ e.1.toList
  prefixTrimmed : trim e.1 = e.1
  routeNe : e.2 ≠ ""
  routeNoComma : ',' ∉ e.2.toList
  routeTrimmed : trim e.2 = e.2

/-! ## Reading one item -/

/-- The check an item's sides must pass: a prefix starting with `/` and a non-empty route. -/
theorem prefixCheck_iff (p route : String) :
    (p.startsWith "/" && !route.isEmpty) = true ↔ p.startsWith "/" = true ∧ route ≠ "" := by
  simp only [Bool.and_eq_true, Bool.not_eq_true', String.isEmpty_eq_false_iff]

/-- An item reads as an entry exactly when it has a `=`, and the trimmed text before the first
`=` starts with `/` and the trimmed text after it is not empty; these are the entry. -/
theorem readPrefixEntry_eq_ok_iff (item : String) (e : String × String) :
    readPrefixEntry item = .ok e ↔ ∃ front back, splitFirst '=' item = some (front, back) ∧
      e = (trim front, trim back) ∧ (trim front).startsWith "/" = true ∧ trim back ≠ "" := by
  unfold readPrefixEntry
  cases splitFirst '=' item with
  | none => simp
  | some p =>
    obtain ⟨front, back⟩ := p
    dsimp only
    split
    next hs =>
      obtain ⟨hslash, hroute⟩ := (prefixCheck_iff _ _).1 hs
      constructor
      · intro h
        cases h
        exact ⟨front, back, rfl, rfl, hslash, hroute⟩
      · rintro ⟨f, b, hfb, rfl, -⟩
        cases hfb
        rfl
    next hs =>
      constructor
      · intro h
        cases h
      · rintro ⟨f, b, hfb, rfl, hslash, hroute⟩
        cases hfb
        exact absurd ((prefixCheck_iff _ _).2 ⟨hslash, hroute⟩) hs

/-- An item is refused exactly when it has no `=`, or its trimmed prefix does not start with `/`,
or its trimmed route is empty. -/
theorem readPrefixEntry_eq_error_iff (item : String) :
    (∃ err, readPrefixEntry item = .error err) ↔ '=' ∉ item.toList ∨
      ∃ front back, splitFirst '=' item = some (front, back) ∧
        ((trim front).startsWith "/" = false ∨ trim back = "") := by
  unfold readPrefixEntry
  cases hs : splitFirst '=' item with
  | none => simp [splitFirst_eq_none_iff.1 hs]
  | some p =>
    obtain ⟨front, back⟩ := p
    have heq : '=' ∈ item.toList := by
      rw [(splitFirst_eq_some hs).1]
      exact List.mem_append_right _ List.mem_cons_self
    dsimp only
    split
    next hcheck =>
      obtain ⟨hslash, hroute⟩ := (prefixCheck_iff _ _).1 hcheck
      refine ⟨fun ⟨_, h⟩ => (by cases h), ?_⟩
      rintro (hno | ⟨f, b, hfb, hbad⟩)
      · exact absurd heq hno
      · cases hfb
        rcases hbad with hbad | hbad
        · rw [hslash] at hbad
          cases hbad
        · exact absurd hbad hroute
    next hcheck =>
      have hbad := mt (prefixCheck_iff _ _).2 hcheck
      rw [not_and_or, Bool.not_eq_true, not_not] at hbad
      exact ⟨fun _ => .inr ⟨front, back, rfl, hbad⟩, fun _ => ⟨_, rfl⟩⟩

/-! ## Writing and reading back -/

/-- A written entry reads back as itself. -/
theorem readPrefixEntry_prefixItem {e : String × String} (h : WritablePrefixEntry e) :
    readPrefixEntry (prefixItem e) = .ok e := by
  have hsplit : splitFirst '=' (prefixItem e) = some (e.1, e.2) := by
    rw [splitFirst_of_toList '=' (prefixItem_toList e) h.prefixNoEquals, String.ofList_toList,
      String.ofList_toList]
  refine (readPrefixEntry_eq_ok_iff _ _).2 ⟨e.1, e.2, hsplit, ?_, ?_, ?_⟩
  · rw [h.prefixTrimmed, h.routeTrimmed]
  · rw [h.prefixTrimmed]
    exact h.slash
  · rw [h.routeTrimmed]
    exact h.routeNe

/-- A written item holds no comma, is not empty, and has no blank at either end: it starts with
its prefix and ends with its route. -/
theorem prefixItem_plain {e : String × String} (h : WritablePrefixEntry e) :
    ',' ∉ (prefixItem e).toList ∧ trim (prefixItem e) = prefixItem e ∧ prefixItem e ≠ "" := by
  have hprefix := toList_ne_nil_of_startsWith h.slash
  have hroute : e.2.toList ≠ [] := by simpa using h.routeNe
  refine ⟨?_, ?_, ?_⟩
  · rw [prefixItem_toList]
    simp only [List.mem_append, List.mem_cons, not_or]
    exact ⟨h.prefixNoComma, by decide, h.routeNoComma⟩
  · exact trim_eq_self_of_toList_eq (prefixItem_toList e) hprefix hroute h.prefixTrimmed
      h.routeTrimmed
  · exact ne_empty_of_toList_eq (prefixItem_toList e)

/-- A table of writable entries, written and read back, is itself, in the same order. -/
theorem readPrefixTable_renderPrefixTable {t : List (String × String)}
    (h : ∀ e ∈ t, WritablePrefixEntry e) : readPrefixTable (renderPrefixTable t) = .ok t := by
  have hitems : readList (renderPrefixTable t) = t.map prefixItem := by
    rw [renderPrefixTable_eq, readList]
    apply trimmedPieces_joinText
    intro s hs
    obtain ⟨e, he, rfl⟩ := List.mem_map.1 hs
    exact prefixItem_plain (h e he)
  rw [readPrefixTable, hitems]
  exact mapM_map_eq_ok fun e he => readPrefixEntry_prefixItem (h e he)

/-- Every entry read from a table can be written back. -/
theorem writable_of_readPrefixTable {raw : String} {t : List (String × String)}
    (h : readPrefixTable raw = .ok t) : ∀ e ∈ t, WritablePrefixEntry e := by
  intro e he
  obtain ⟨item, hitem, hread⟩ := mem_of_mapM_eq_ok h e he
  obtain ⟨front, back, hsplit, rfl, hslash, hroute⟩ := (readPrefixEntry_eq_ok_iff item e).1 hread
  obtain ⟨hcomma, -, -⟩ := mem_trimmedPieces hitem
  obtain ⟨hl, hnot⟩ := splitFirst_eq_some hsplit
  -- both sides are trimmed parts of the item, and the front stands before its first `=`
  have hfront : ∀ c ∈ (trim front).toList, c ∈ item.toList := fun c hc => by
    rw [hl]
    exact List.mem_append_left _ (trimList_subset _ (by rwa [trim_toList] at hc))
  have hback : ∀ c ∈ (trim back).toList, c ∈ item.toList := fun c hc => by
    rw [hl]
    exact List.mem_append_right _ (List.mem_cons_of_mem _ (trimList_subset _
      (by rwa [trim_toList] at hc)))
  exact ⟨hslash, fun hc => hcomma (hfront _ hc),
    fun hc => hnot (trimList_subset _ (by rwa [trim_toList] at hc)), trim_trim front, hroute,
    fun hc => hcomma (hback _ hc), trim_trim back⟩

/-! ## Main statement -/

/-- Writing and reading prefix tables: a table whose prefixes start with `/` and whose routes
are not empty, none holding a comma or a blank at either end and no prefix holding `=`, is read
back as itself, in order and with its repeats; so writing what was read and reading again gives
what was read; and a text is refused exactly when one of its non-blank comma-separated items has
no `=`, a trimmed prefix that does not start with `/`, or an empty trimmed route. -/
theorem prefixTable_round_trip :
    (∀ t : List (String × String), (∀ e ∈ t, WritablePrefixEntry e) →
        readPrefixTable (renderPrefixTable t) = .ok t) ∧
      (∀ raw t, readPrefixTable raw = .ok t →
        readPrefixTable (renderPrefixTable t) = readPrefixTable raw) ∧
      ∀ raw, (∃ err, readPrefixTable raw = .error err) ↔
        ∃ item ∈ readList raw, '=' ∉ item.toList ∨
          ∃ front back, splitFirst '=' item = some (front, back) ∧
            ((trim front).startsWith "/" = false ∨ trim back = "") := by
  refine ⟨fun t h => readPrefixTable_renderPrefixTable h, fun raw t h => ?_, fun raw => ?_⟩
  · rw [h]
    exact readPrefixTable_renderPrefixTable (writable_of_readPrefixTable h)
  · rw [readPrefixTable, mapM_eq_error_iff]
    exact exists_congr fun item => and_congr_right fun _ => readPrefixEntry_eq_error_iff item

end ApiGateway.Config
