import Mathlib
import ApiGateway.Proofs.SettingsText

/-!
# Comma-separated lists in settings text

A list is written as its items joined by `,`. Reading cuts the text at every comma, trims the
blanks (the characters of the Unicode `White_Space` property) from both ends of each piece and
drops the pieces that are then empty, keeping the others in order. Every other settings format
reads its items this way, so runs of commas, blank pieces and blanks above ASCII must neither
create, merge nor reorder items.

Main statements:
* `readList_round_trip`: every item read is a `ListItem` (not empty, no comma, no blank as its
  first or last character); a list written and read back is itself exactly when all its items
  are list items; so writing a list that was read and reading it again gives the same list.
-/

namespace ApiGateway.Config

open ApiGateway.Text

/-- A text that can stand as an item of a comma-separated list: not empty, holding no comma, and
with no blank as its first or last character. -/
structure ListItem (s : String) : Prop where
  notEmpty : s ≠ ""
  noComma : ',' ∉ s.toList
  headNotBlank : ∀ c ∈ s.toList.head?, isBlank c = false
  lastNotBlank : ∀ c ∈ s.toList.getLast?, isBlank c = false

/-- A list item is a text without a comma that is not empty and is its own trimming. -/
theorem listItem_iff (s : String) : ListItem s ↔ ',' ∉ s.toList ∧ trim s = s ∧ s ≠ "" := by
  constructor
  · rintro ⟨hne, hcomma, hhead, hlast⟩
    exact ⟨hcomma, trim_eq_self hhead hlast, hne⟩
  · rintro ⟨hcomma, htrim, hne⟩
    obtain ⟨hhead, hlast⟩ := ends_of_trim_eq htrim
    exact ⟨hne, hcomma, hhead, hlast⟩

/-- Whether a text is a list item is decided through `listItem_iff`. -/
instance (s : String) : Decidable (ListItem s) :=
  decidable_of_iff _ (listItem_iff s).symm

example : ListItem "a b" ∧ ¬ListItem "a　" ∧ ¬ListItem "a,b" := by decide +kernel

/-- Every item read from a text is a list item. -/
theorem listItem_of_mem_readList {raw item : String} (h : item ∈ readList raw) : ListItem item :=
  (listItem_iff item).2 (mem_trimmedPieces h)

/-- A list of list items, written and read back, is itself. -/
theorem readList_renderList {xs : List String} (h : ∀ x ∈ xs, ListItem x) :
    readList (renderList xs) = xs :=
  trimmedPieces_joinText ',' fun x hx => (listItem_iff x).1 (h x hx)

-- An item with a comma splits, a padded one is trimmed and an empty one is dropped.
example : readList (renderList ["b,c", " a", ""]) = ["b", "c", "a"] := by decide +kernel

/-- A list reads back as itself exactly when all its items are list items: the items read are
always list items, and list items are read back unchanged. -/
theorem readList_renderList_eq_iff (xs : List String) :
    readList (renderList xs) = xs ↔ ∀ x ∈ xs, ListItem x := by
  constructor
  · intro h x hx
    rw [← h] at hx
    exact listItem_of_mem_readList hx
  · exact readList_renderList

/-! ## Main statement -/

/-- Reading comma-separated lists: every item read is not empty, holds no comma and has no blank
at either end; a list joined with commas reads back as itself, in order and with its repeats,
exactly when every item is so; and reading the joined items of a list that was read gives that
list again. -/
theorem readList_round_trip :
    (∀ raw, ∀ item ∈ readList raw, ListItem item) ∧
      (∀ xs, readList (renderList xs) = xs ↔ ∀ x ∈ xs, ListItem x) ∧
      ∀ raw, readList (renderList (readList raw)) = readList raw := by
  refine ⟨fun raw item h => listItem_of_mem_readList h, readList_renderList_eq_iff, fun raw => ?_⟩
  -- what was read consists of list items, which are read back unchanged
  exact readList_renderList fun item h => listItem_of_mem_readList h

end ApiGateway.Config
