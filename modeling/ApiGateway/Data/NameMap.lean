/-!
# Maps keyed by name

Route tables and restricted prefixes are maps from names to values that are listed in
ascending name order, one entry per name. A `NameMap` keeps its entries that way:
`insert` places a new name in order and replaces the value of a name already present,
so a later entry for a name wins. The order is part of the map, proved where an operation
builds one (`pairwise_insertEntry`).

Main statements:
* `find?_insert`: looking a name up after an insertion sees the inserted value for that
  name and the old value for every other name.
* `mem_insert_iff`: as the names of a map ascend, an insertion replaces the entry of its name
  and keeps all others.
* `find?_ofList_eq_some_iff`: a map built from a list maps each name to the value of its last
  pair in the list.
* `ofList_toList`: a map is built back from its own entries.
-/

namespace ApiGateway

/-- A finite map from names to values, listed in ascending name order. -/
@[ext] structure NameMap (α : Type) where
  /-- The entries, ascending by name. -/
  entries : List (String × α)
  /-- The names ascend strictly, so each has one entry. -/
  ascending : entries.Pairwise fun a b => a.1 < b.1
  deriving Repr, DecidableEq

namespace NameMap

variable {α : Type}

/-- Places `(k, v)` before the first entry whose name is not below `k`, replacing that
entry when its name is `k`. -/
def insertEntry (k : String) (v : α) : List (String × α) → List (String × α)
  | [] => [(k, v)]
  | (k', v') :: rest =>
    if k < k' then (k, v) :: (k', v') :: rest
    else if k = k' then (k, v) :: rest
    else (k', v') :: insertEntry k v rest

/-- An entry after an insertion is the inserted pair or was there before. -/
theorem mem_of_mem_insertEntry (k : String) (v : α) {l : List (String × α)} {e : String × α}
    (he : e ∈ insertEntry k v l) : e = (k, v) ∨ e ∈ l := by
  induction l with
  | nil => simpa [insertEntry] using he
  | cons d rest ih =>
    simp only [insertEntry] at he
    split at he
    · exact List.mem_cons.1 he
    · split at he
      · rcases List.mem_cons.1 he with rfl | he
        · exact .inl rfl
        · exact .inr (List.mem_cons_of_mem _ he)
      · rcases List.mem_cons.1 he with rfl | he
        · exact .inr List.mem_cons_self
        · rcases ih he with h | h
          · exact .inl h
          · exact .inr (List.mem_cons_of_mem _ h)

/-- An insertion keeps the names strictly ascending. -/
theorem pairwise_insertEntry {k : String} {v : α} {l : List (String × α)}
    (h : l.Pairwise fun a b => a.1 < b.1) : (insertEntry k v l).Pairwise fun a b => a.1 < b.1 := by
  induction l with
  | nil => exact .cons (by simp) .nil
  | cons d rest ih =>
    obtain ⟨k', v'⟩ := d
    cases h with
    | cons hd hrest =>
      simp only [insertEntry]
      split
      next hlt =>
        -- the new entry goes first: below `k'`, and so below every name after it
        refine .cons (fun e he => ?_) (.cons hd hrest)
        rcases List.mem_cons.1 he with rfl | he
        · exact hlt
        · exact String.lt_trans hlt (hd e he)
      next hnlt =>
        split
        next hk =>
          subst hk
          exact .cons hd hrest
        next hne =>
          have hlt : k' < k := by
            refine Decidable.byContradiction fun h => hne ?_
            exact String.le_antisymm (String.not_lt.1 h) (String.not_lt.1 hnlt)
          refine .cons (fun e he => ?_) (ih hrest)
          rcases mem_of_mem_insertEntry k v he with rfl | he
          · exact hlt
          · exact hd e he

/-- The map with no entries. -/
def empty : NameMap α := ⟨[], .nil⟩

/-- Maps `k` to `v`, replacing any value `k` had. -/
def insert (m : NameMap α) (k : String) (v : α) : NameMap α :=
  ⟨insertEntry k v m.entries, pairwise_insertEntry m.ascending⟩

/-- The value of `k`, if the map has one. -/
def find? (m : NameMap α) (k : String) : Option α :=
  (m.entries.find? fun e => e.1 == k).map Prod.snd

/-- Whether `k` has a value. -/
def contains (m : NameMap α) (k : String) : Bool :=
  (m.find? k).isSome

/-- The map built by inserting the pairs in order, so a later pair for a name wins. -/
def ofList (l : List (String × α)) : NameMap α :=
  l.foldl (fun m e => m.insert e.1 e.2) empty

/-- The entries in ascending name order. -/
def toList (m : NameMap α) : List (String × α) := m.entries

/-- The names in ascending order. -/
def keys (m : NameMap α) : List String := m.entries.map Prod.fst

/-- Whether the map has no entries. -/
def isEmpty (m : NameMap α) : Bool := m.entries.isEmpty

/-- Applies `f` to every value. -/
def mapValues {β : Type} (f : α → β) (m : NameMap α) : NameMap β :=
  ⟨m.entries.map fun e => (e.1, f e.2), List.pairwise_map.2 m.ascending⟩

/-- A search by name after an insertion finds the inserted value for its name and what it
found before for every other name. -/
theorem find?_insertEntry (k k' : String) (v : α) (l : List (String × α)) :
    ((insertEntry k v l).find? fun e => e.1 == k').map Prod.snd =
      if k' = k then some v else (l.find? fun e => e.1 == k').map Prod.snd := by
  induction l with
  | nil =>
    by_cases h : k' = k
    · subst h; simp [insertEntry]
    · have : (k == k') = false := by simp; exact fun e => h e.symm
      simp [insertEntry, h, this]
  | cons e rest ih =>
    obtain ⟨a, b⟩ := e
    simp only [insertEntry]
    by_cases hlt : k < a
    · simp only [if_pos hlt]
      by_cases h : k' = k
      · subst h; simp
      · have : (k == k') = false := by simp; exact fun e => h e.symm
        simp [this, h]
    · simp only [if_neg hlt]
      by_cases hka : k = a
      · subst hka
        by_cases h : k' = k
        · subst h; simp
        · have : (k == k') = false := by simp; exact fun e => h e.symm
          simp [this, h]
      · simp only [if_neg hka, List.find?_cons]
        by_cases hak : a = k'
        · subst hak
          have hne : a ≠ k := fun e => hka e.symm
          simp [hne]
        · have hb : (a == k') = false := by simpa using hak
          simp only [hb]
          exact ih

/-- After inserting `v` at `k`, the name `k` finds `v` and every other name finds what
it found before. -/
@[simp] theorem find?_insert (m : NameMap α) (k k' : String) (v : α) :
    (m.insert k v).find? k' = if k' = k then some v else m.find? k' :=
  find?_insertEntry k k' v m.entries

/-- The empty map finds nothing. -/
theorem find?_empty (k : String) : (empty : NameMap α).find? k = none := rfl

/-- A name is a key exactly when some entry has it. -/
theorem mem_keys (m : NameMap α) (k : String) : k ∈ m.keys ↔ ∃ v, (k, v) ∈ m.toList := by
  simp [keys, toList]

/-- Changing the values keeps the names. -/
@[simp] theorem keys_mapValues {β : Type} (f : α → β) (m : NameMap α) :
    (m.mapValues f).keys = m.keys := by
  simp [keys, mapValues, Function.comp_def]

/-- The entries after changing the values are the old entries with their values changed. -/
theorem mem_mapValues {β : Type} (f : α → β) (m : NameMap α) (e : String × β) :
    e ∈ (m.mapValues f).toList ↔ ∃ v, (e.1, v) ∈ m.toList ∧ e.2 = f v := by
  obtain ⟨k, w⟩ := e
  simp only [mapValues, toList, List.mem_map, Prod.mk.injEq]
  constructor
  · rintro ⟨⟨k', v⟩, hv, rfl, rfl⟩
    exact ⟨v, hv, rfl⟩
  · rintro ⟨v, hv, rfl⟩
    exact ⟨(k, v), hv, rfl, rfl⟩

/-- An insertion keeps every entry but the first one of its name, which `find?` sees. -/
theorem mem_insertEntry_or (k : String) (v : α) {l : List (String × α)} {e : String × α}
    (he : e ∈ l) : e ∈ insertEntry k v l ∨ l.find? (fun e => e.1 == k) = some e := by
  induction l with
  | nil => cases he
  | cons d rest ih =>
    obtain ⟨k', v'⟩ := d
    simp only [insertEntry]
    split
    · exact .inl (List.mem_cons_of_mem _ he)
    · split
      next hk =>
        rcases List.mem_cons.1 he with rfl | he
        · exact .inr (by simp [hk])
        · exact .inl (List.mem_cons_of_mem _ he)
      next hk =>
        have hk' : (k' == k) = false := by simpa using fun h => hk h.symm
        rcases List.mem_cons.1 he with rfl | he
        · exact .inl List.mem_cons_self
        · rcases ih he with h | h
          · exact .inl (List.mem_cons_of_mem _ h)
          · exact .inr (by simp [hk', h])

/-- After inserting `v` at `k`, every entry is still there unless it was the value `k`
found. -/
theorem mem_insert_or (m : NameMap α) (k : String) (v : α) {e : String × α}
    (he : e ∈ m.toList) : e ∈ (m.insert k v).toList ∨ (e.1 = k ∧ m.find? k = some e.2) := by
  rcases mem_insertEntry_or k v he with h | h
  · exact .inl h
  · refine .inr ⟨?_, congrArg (Option.map Prod.snd) h⟩
    simpa using List.find?_some h

/-- An insertion lists the inserted pair. -/
theorem mem_insertEntry_self (k : String) (v : α) (l : List (String × α)) :
    (k, v) ∈ insertEntry k v l := by
  induction l with
  | nil => simp [insertEntry]
  | cons d rest ih =>
    simp only [insertEntry]
    split
    · exact List.mem_cons_self
    · split
      · exact List.mem_cons_self
      · exact List.mem_cons_of_mem _ ih

/-- After inserting `v` at `k`, the map lists `(k, v)`. -/
@[simp] theorem mem_insert_self (m : NameMap α) (k : String) (v : α) :
    (k, v) ∈ (m.insert k v).toList :=
  mem_insertEntry_self k v m.entries

/-! ## Building from a list -/

/-- After inserting the pairs of a list, a name finds the value of its last pair in the list,
and what it found before when the list has none. -/
theorem find?_foldl_insert (l : List (String × α)) (m : NameMap α) (k : String) :
    (l.foldl (fun m e => m.insert e.1 e.2) m).find? k =
      ((l.reverse.find? fun e => e.1 == k).map Prod.snd).or (m.find? k) := by
  induction l generalizing m with
  | nil => simp
  | cons e rest ih =>
    rw [List.foldl_cons, ih, find?_insert, List.reverse_cons, List.find?_append]
    by_cases h : k = e.1
    · subst h
      cases rest.reverse.find? (fun d => d.1 == e.1) <;> simp
    · have he : (e.1 == k) = false := by simpa using fun h' => h h'.symm
      simp [h, he]

/-- A name of a map built from a list finds exactly the value of the name's last pair. -/
theorem find?_ofList_eq_some_iff (l : List (String × α)) (k : String) (v : α) :
    (ofList l).find? k = some v ↔ ∃ pre post, l = pre ++ (k, v) :: post ∧ ∀ e ∈ post, e.1 ≠ k := by
  rw [ofList, find?_foldl_insert, find?_empty, Option.or_none, Option.map_eq_some_iff]
  constructor
  · rintro ⟨⟨k', w⟩, he, rfl⟩
    obtain ⟨hk, after, before, hrev, hafter⟩ := List.find?_eq_some_iff_append.1 he
    -- the pairs after the last one of the name come first in the reversed list
    rw [List.reverse_eq_append_iff] at hrev
    have hk' : k' = k := by simpa using hk
    subst hk'
    refine ⟨before.reverse, after.reverse, by simpa using hrev, fun e he' => ?_⟩
    simpa using hafter e (List.mem_reverse.1 he')
  · rintro ⟨pre, post, rfl, hpost⟩
    refine ⟨(k, v), List.find?_eq_some_iff_append.2 ⟨by simp, post.reverse, pre.reverse,
      by simp, fun e he => ?_⟩, rfl⟩
    simpa using hpost e (List.mem_reverse.1 he)

/-- Every entry of a map built from a list is a pair of the list. -/
theorem mem_ofList {l : List (String × α)} {e : String × α} (he : e ∈ (ofList l).toList) :
    e ∈ l := by
  suffices h : ∀ m : NameMap α, e ∈ (l.foldl (fun m e => m.insert e.1 e.2) m).toList →
      e ∈ m.toList ∨ e ∈ l from (h empty he).resolve_left List.not_mem_nil
  clear he
  induction l with
  | nil => exact fun m hm => .inl hm
  | cons d rest ih =>
    intro m hm
    rw [List.foldl_cons] at hm
    rcases ih (m.insert d.1 d.2) hm with hm | hm
    · rcases mem_of_mem_insertEntry d.1 d.2 hm with rfl | hm
      · exact .inr List.mem_cons_self
      · exact .inl hm
    · exact .inr (List.mem_cons_of_mem d hm)

/-- A map built from a list has a name exactly when some pair of the list has it. -/
theorem contains_ofList_iff (l : List (String × α)) (k : String) :
    (ofList l).contains k = true ↔ ∃ v, (k, v) ∈ l := by
  rw [contains, ofList, find?_foldl_insert, find?_empty, Option.or_none, Option.isSome_map,
    List.find?_isSome]
  constructor
  · rintro ⟨⟨k', v⟩, he, hk⟩
    have hk' : k' = k := by simpa using hk
    subst hk'
    exact ⟨v, List.mem_reverse.1 he⟩
  · rintro ⟨v, hv⟩
    exact ⟨(k, v), List.mem_reverse.2 hv, by simp⟩

/-- A map built from a list is empty exactly when the list is. -/
theorem isEmpty_ofList_iff (l : List (String × α)) : (ofList l).isEmpty = true ↔ l = [] := by
  constructor
  · intro h
    cases l with
    | nil => rfl
    | cons e rest =>
      -- the first pair's name is in the map, so the map has an entry
      have hc := (contains_ofList_iff (e :: rest) e.1).2 ⟨e.2, List.mem_cons_self⟩
      have he : (ofList (e :: rest)).entries = [] := List.isEmpty_iff.1 h
      simp [contains, find?, he] at hc
  · rintro rfl
    rfl

/-! ## Order -/

section Ordered

variable {k : String} {v : α} {l : List (String × α)}

/-- In a list whose names ascend strictly, the search by name finds the entry of that name. -/
theorem find?_of_mem_of_pairwise {w : α} (h : l.Pairwise fun a b => a.1 < b.1)
    (hk : (k, w) ∈ l) : (l.find? fun e => e.1 == k).map Prod.snd = some w := by
  induction l with
  | nil => cases hk
  | cons d rest ih =>
    obtain ⟨k', v'⟩ := d
    cases h with
    | cons hd hrest =>
      rcases List.mem_cons.1 hk with he | hk
      · simp only [Prod.mk.injEq] at he
        obtain ⟨rfl, rfl⟩ := he
        simp
      · -- the first entry's name is below `k`, so the search goes on past it
        have hne : (k' == k) = false := by simpa using String.ne_of_lt (hd (k, w) hk)
        simp only [List.find?_cons, hne]
        exact ih hrest hk

variable {m : NameMap α}

/-- A map finds every one of its entries: a name has one entry. -/
theorem find?_of_mem {w : α} (hk : (k, w) ∈ m.toList) : m.find? k = some w :=
  find?_of_mem_of_pairwise m.ascending hk

/-- An insertion replaces the entry of its name and keeps all others. -/
theorem mem_insert_iff {e : String × α} :
    e ∈ (m.insert k v).toList ↔ e = (k, v) ∨ (e ∈ m.toList ∧ e.1 ≠ k) := by
  constructor
  · intro he
    rcases mem_of_mem_insertEntry k v he with rfl | hm
    · exact .inl rfl
    · by_cases hk : e.1 = k
      · -- the new map has one entry for `k`, and `find?` sees `v` there
        left
        obtain ⟨k', w⟩ := e
        simp only at hk
        subst hk
        have hw := find?_of_mem he
        rw [find?_insert, if_pos rfl] at hw
        cases hw
        rfl
      · exact .inr ⟨hm, hk⟩
  · rintro (rfl | ⟨hm, hk⟩)
    · exact mem_insert_self m k v
    · rcases mem_insert_or m k v hm with h' | h'
      · exact h'
      · exact absurd h'.1 hk

/-- A name above every name of the list goes last. -/
theorem insertEntry_of_lt (h : ∀ e ∈ l, e.1 < k) : insertEntry k v l = l ++ [(k, v)] := by
  induction l with
  | nil => rfl
  | cons d rest ih =>
    have hd : d.1 < k := h d List.mem_cons_self
    simp only [insertEntry]
    rw [if_neg (String.lt_asymm hd), if_neg (String.ne_of_lt hd).symm,
      ih fun e he => h e (List.mem_cons_of_mem d he)]
    rfl

/-- Inserting pairs whose names ascend past those of a map appends them to its entries. -/
theorem entries_foldl_insert_of_pairwise (h : (m.entries ++ l).Pairwise fun a b => a.1 < b.1) :
    (l.foldl (fun m e => m.insert e.1 e.2) m).entries = m.entries ++ l := by
  induction l generalizing m with
  | nil => simp
  | cons e rest ih =>
    have hlt : ∀ d ∈ m.entries, d.1 < e.1 := fun d hd =>
      (List.pairwise_append.1 h).2.2 d hd e List.mem_cons_self
    have hstep : (m.insert e.1 e.2).entries = m.entries ++ [e] := insertEntry_of_lt hlt
    rw [List.foldl_cons, ih (by simpa [hstep] using h), hstep]
    simp

/-- A map is built back from its own entries. -/
theorem ofList_toList (m : NameMap α) : ofList m.toList = m := by
  have hbuild : (m.entries.foldl (fun m e => m.insert e.1 e.2) empty).entries =
      [] ++ m.entries := entries_foldl_insert_of_pairwise m.ascending
  exact NameMap.ext (by simpa [ofList, toList] using hbuild)

end Ordered

example : (ofList [("b", 1), ("a", 2), ("b", 3)]).toList = [("a", 2), ("b", 3)] := by
  decide +kernel

end NameMap

end ApiGateway
