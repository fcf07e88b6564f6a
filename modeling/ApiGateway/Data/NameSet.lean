/-!
# Sets of names

Address lists of the access policy are sets of exact names: adding a name twice keeps
one copy, and the set is shown in ascending order. A `NameSet` keeps its names
ascending and without repeats, so showing it is reading its list.

Main statements:
* `contains_insert`, `contains_erase`, `contains_ofList`: membership after adding or removing
  a name, and in the set of a list.
* `pairwise_insertName`: adding a name keeps the names strictly ascending, so every set carries
  its order and lists each name once (`nodup_toList`).
-/

namespace ApiGateway

/-- A finite set of names, listed in ascending order without repeats. -/
structure NameSet where
  /-- The names, ascending. -/
  names : List String
  /-- The names ascend strictly, so none is listed twice. -/
  ascending : names.Pairwise (· < ·)
  deriving Repr, DecidableEq

namespace NameSet

/-- Places `n` before the first name not below it, unless it is already there. -/
def insertName (n : String) : List String → List String
  | [] => [n]
  | m :: rest =>
    if n < m then n :: m :: rest
    else if n = m then m :: rest
    else m :: insertName n rest

/-- A name is in a list after adding `n` exactly when it is `n` or was there before. -/
theorem mem_insertName (n m : String) (l : List String) :
    m ∈ insertName n l ↔ m = n ∨ m ∈ l := by
  induction l with
  | nil => simp [insertName]
  | cons a rest ih =>
    simp only [insertName]
    by_cases hlt : n < a
    · simp [hlt]
    · by_cases hna : n = a
      · subst hna; simp
      · simp only [if_neg hlt, if_neg hna, List.mem_cons, ih]
        constructor
        · rintro (h | h | h) <;> simp [h]
        · rintro (h | h | h) <;> simp [h]

/-- Adding a name keeps the names strictly ascending. -/
theorem pairwise_insertName (n : String) {l : List String} (h : l.Pairwise (· < ·)) :
    (insertName n l).Pairwise (· < ·) := by
  induction l with
  | nil => exact .cons (by simp) .nil
  | cons m rest ih =>
    cases h with
    | cons hm hrest =>
      simp only [insertName]
      split
      next hlt =>
        -- `n` goes first: below `m`, and so below every name after it
        refine .cons (fun y hy => ?_) (.cons hm hrest)
        rcases List.mem_cons.1 hy with rfl | hy
        · exact hlt
        · exact String.lt_trans hlt (hm y hy)
      next hnlt =>
        split
        next => exact .cons hm hrest
        next hne =>
          have hmn : m < n := by
            refine Decidable.byContradiction fun hmn => hne ?_
            exact String.le_antisymm (String.not_lt.1 hmn) (String.not_lt.1 hnlt)
          refine .cons (fun y hy => ?_) (ih hrest)
          rcases (mem_insertName n y rest).1 hy with rfl | hy
          · exact hmn
          · exact hm y hy

/-- The set with no names. -/
def empty : NameSet := ⟨[], .nil⟩

/-- Adds a name. -/
def insert (s : NameSet) (n : String) : NameSet :=
  ⟨insertName n s.names, pairwise_insertName n s.ascending⟩

/-- Removes a name. -/
def erase (s : NameSet) (n : String) : NameSet :=
  ⟨s.names.filter (· != n), s.ascending.filter _⟩

/-- Whether the set holds `n`. -/
def contains (s : NameSet) (n : String) : Bool := s.names.contains n

/-- Whether the set has no names. -/
def isEmpty (s : NameSet) : Bool := s.names.isEmpty

/-- The set of the names of a list. -/
def ofList (l : List String) : NameSet := l.foldl insert empty

/-- The names in ascending order. -/
def toList (s : NameSet) : List String := s.names

/-- A name is in the set after adding `n` exactly when it is `n` or was there before. -/
@[simp] theorem contains_insert (s : NameSet) (n m : String) :
    (s.insert n).contains m = true ↔ m = n ∨ s.contains m = true := by
  simp [contains, insert, mem_insertName]

/-- A name is in the set after removing `n` exactly when it is not `n` and was there. -/
@[simp] theorem contains_erase (s : NameSet) (n m : String) :
    (s.erase n).contains m = true ↔ m ≠ n ∧ s.contains m = true := by
  simp [contains, erase, List.mem_filter, and_comm]

/-- The names listed are the names the set holds. -/
theorem mem_toList (s : NameSet) (x : String) : x ∈ s.toList ↔ s.contains x = true := by
  simp [toList, contains]

/-- A set is empty exactly when it lists no name. -/
theorem isEmpty_eq_false_iff (s : NameSet) : s.isEmpty = false ↔ ∃ x, s.contains x = true := by
  cases s with
  | mk names hasc =>
    cases names with
    | nil => simp [isEmpty, contains]
    | cons n rest => exact iff_of_true rfl ⟨n, by simp [contains]⟩

/-- A set with a name added is never empty. -/
@[simp] theorem isEmpty_insert (s : NameSet) (n : String) : (s.insert n).isEmpty = false :=
  (isEmpty_eq_false_iff _).2 ⟨n, (contains_insert s n n).2 (.inl rfl)⟩

/-- Removing a name empties a set exactly when the set held no other name. -/
theorem isEmpty_erase_iff (s : NameSet) (n : String) :
    (s.erase n).isEmpty = true ↔ ∀ x, s.contains x = true → x = n := by
  rw [← Bool.not_eq_false, isEmpty_eq_false_iff]
  simp only [contains_erase, not_exists, not_and]
  constructor
  · intro h x hx
    exact Decidable.byContradiction fun hne => h x hne hx
  · intro h x hne hx
    exact hne (h x hx)

/-- After adding the names of a list, a set holds those names and the ones it held. -/
theorem contains_foldl_insert (l : List String) (s : NameSet) (x : String) :
    (l.foldl insert s).contains x = true ↔ x ∈ l ∨ s.contains x = true := by
  induction l generalizing s with
  | nil => simp
  | cons n rest ih =>
    rw [List.foldl_cons, ih, contains_insert, List.mem_cons, or_assoc, or_left_comm]

/-- The set of a list holds exactly the list's names. -/
@[simp] theorem contains_ofList (l : List String) (x : String) :
    (ofList l).contains x = true ↔ x ∈ l := by
  rw [ofList, contains_foldl_insert]
  simp [empty, contains]

/-- A set lists each of its names once. -/
theorem nodup_toList (s : NameSet) : s.toList.Nodup :=
  s.ascending.imp fun hlt => String.ne_of_lt hlt

example : (ofList ["b", "a", "b"]).toList = ["a", "b"] := by decide +kernel

end NameSet

end ApiGateway
