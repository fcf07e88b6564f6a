import Mathlib
import ApiGateway.Routing.Registry

/-!
# Routing by the longest prefix

A path goes to the route of the longest prefix in the table whose bytes begin the path's
bytes; among matching prefixes of that length the entry given first wins, and a path that
no prefix begins goes to the default route. The registry gets there by ordering the table
once, longest prefix first, and taking the first prefix that starts the path.

That first match is the earliest of the longest because the ordering is stable: it keeps
the entries of each prefix length in the order given (`filter_orderPrefixes_size`).
Duplicate prefixes and prefixes of equal length are therefore settled by the table's own
order, whatever the table holds.

## Implementation notes

Prefixes are compared as text (`String.startsWith`), which for well-formed UTF-8 is the
same as comparing bytes: `startsWith_iff_bytePrefix`.
-/

namespace ApiGateway.Registry

/-- The bytes of `pre` begin the bytes of `path`. -/
def BytePrefix (pre path : String) : Prop := ∃ rest : ByteArray, pre.toUTF8 ++ rest = path.toUTF8

/-- A text starts a path exactly when its bytes begin the path's bytes: UTF-8 never
splits a character between a prefix and the rest. -/
theorem startsWith_iff_bytePrefix (path pre : String) :
    path.startsWith pre = true ↔ BytePrefix pre path := by
  rw [String.startsWith_string_iff]
  constructor
  · rintro ⟨t, ht⟩
    refine ⟨(String.ofList t).toUTF8, ?_⟩
    have hpath : path = pre ++ String.ofList t := by
      rw [← String.toList_inj, String.toList_append, String.toList_ofList, ht]
    rw [hpath, String.toUTF8_eq_toByteArray, String.toUTF8_eq_toByteArray,
      String.toUTF8_eq_toByteArray, String.toByteArray_append]
  · rintro ⟨rest, h⟩
    apply List.isPrefix_of_utf8Encode_append_eq_utf8Encode rest
    rw [String.utf8Encode_toList, String.utf8Encode_toList]
    simpa using h

/-- Whether a prefix's bytes begin a path is decided by `String.startsWith`. -/
instance (pre path : String) : Decidable (BytePrefix pre path) :=
  decidable_of_iff _ (startsWith_iff_bytePrefix path pre)

/-! ## The ordered table -/

/-- The order of the table: an entry comes before another of no greater length. -/
def longerFirst (a b : String × String) : Bool := decide (b.1.utf8ByteSize ≤ a.1.utf8ByteSize)

/-- Ordering longer prefixes first is transitive. -/
theorem longerFirst_trans (a b c : String × String) :
    longerFirst a b → longerFirst b c → longerFirst a c := by
  simp only [longerFirst, decide_eq_true_eq]
  omega

/-- Of two entries, one comes first. -/
theorem longerFirst_total (a b : String × String) : longerFirst a b || longerFirst b a := by
  simp only [longerFirst, Bool.or_eq_true, decide_eq_true_eq]
  omega

/-- The table is ordered by a stable merge sort, longer prefixes first. -/
theorem orderPrefixes_eq (t : List (String × String)) :
    orderPrefixes t = t.mergeSort longerFirst := rfl

/-- Each prefix in the ordered table is no shorter than any after it. -/
theorem orderPrefixes_pairwise (t : List (String × String)) :
    (orderPrefixes t).Pairwise fun a b => b.1.utf8ByteSize ≤ a.1.utf8ByteSize := by
  have h := List.pairwise_mergeSort longerFirst_trans longerFirst_total t
  rw [orderPrefixes_eq]
  exact h.imp fun hab => by simpa [longerFirst] using hab

/-- Ordering the table keeps the entries of each prefix length in the order given. -/
theorem filter_orderPrefixes_size (t : List (String × String)) (k : Nat) :
    (orderPrefixes t).filter (fun x => x.1.utf8ByteSize == k) =
      t.filter (fun x => x.1.utf8ByteSize == k) := by
  let p : String × String → Bool := fun x => x.1.utf8ByteSize == k
  -- the entries of length `k` are ordered among themselves, so the sort keeps them as a
  -- sublist; being as many as in the sorted table, they are all of them there
  have hsorted : (t.filter p).Pairwise fun a b => longerFirst a b := by
    refine List.pairwise_of_forall_mem_list fun a ha b hb => ?_
    simp only [p, List.mem_filter, beq_iff_eq] at ha hb
    simp [longerFirst, ha.2, hb.2]
  have hsub : List.Sublist (t.filter p) (t.mergeSort longerFirst) :=
    List.sublist_mergeSort longerFirst_trans longerFirst_total hsorted List.filter_sublist
  have hsub' : List.Sublist (t.filter p) ((t.mergeSort longerFirst).filter p) := by
    simpa [List.filter_filter] using hsub.filter p
  have hlen : (t.filter p).length = ((t.mergeSort longerFirst).filter p).length :=
    (((List.mergeSort_perm t longerFirst).filter p).length_eq).symm
  rw [orderPrefixes_eq]
  exact (hsub'.eq_of_length hlen).symm

/-! ## The route of a path -/

/-- `e` is the first entry of the table, among those whose prefix begins the path's bytes,
with the longest prefix: every earlier matching entry is shorter and no later one longer. -/
def FirstLongest (t : List (String × String)) (path : String) (e : String × String) : Prop :=
  ∃ before after, t = before ++ e :: after ∧ BytePrefix e.1 path ∧
    (∀ x ∈ before, BytePrefix x.1 path → x.1.utf8ByteSize < e.1.utf8ByteSize) ∧
    (∀ x ∈ after, BytePrefix x.1 path → x.1.utf8ByteSize ≤ e.1.utf8ByteSize)

section Match

variable {t : List (String × String)} {path : String} {e : String × String}

/-- The first match in the ordered table is at least as long as every match in the table. -/
theorem size_le_of_find? (h : (orderPrefixes t).find? (fun p => path.startsWith p.1) = some e)
    {x : String × String} (hx : x ∈ t) (hq : path.startsWith x.1 = true) :
    x.1.utf8ByteSize ≤ e.1.utf8ByteSize := by
  obtain ⟨-, before, after, hs, hbefore⟩ := List.find?_eq_some_iff_append.1 h
  have hxs : x ∈ before ++ e :: after := hs ▸ List.mem_mergeSort.2 hx
  have hsorted := orderPrefixes_pairwise t
  rw [hs, List.pairwise_append, List.pairwise_cons] at hsorted
  rcases List.mem_append.1 hxs with hb | ha
  · -- no earlier entry of the ordered table matches
    simpa [hq] using hbefore x hb
  · rcases List.mem_cons.1 ha with rfl | ha
    · exact le_refl _
    · exact hsorted.2.1.1 x ha

/-- The first match in the ordered table is the table's first match of its length. -/
theorem find?_size_of_find? (h : (orderPrefixes t).find? (fun p => path.startsWith p.1) = some e) :
    t.find? (fun x => path.startsWith x.1 && x.1.utf8ByteSize == e.1.utf8ByteSize) = some e := by
  obtain ⟨he, before, after, hs, hbefore⟩ := List.find?_eq_some_iff_append.1 h
  have hfilter := congrArg (List.filter fun x => path.startsWith x.1)
    (filter_orderPrefixes_size t e.1.utf8ByteSize)
  simp only [List.filter_filter] at hfilter
  rw [← List.head?_filter, ← hfilter, List.head?_filter, hs, List.find?_append]
  have hnone : before.find? (fun x => path.startsWith x.1 && x.1.utf8ByteSize == e.1.utf8ByteSize) =
      none := by
    rw [List.find?_eq_none]
    intro x hx
    have hq : path.startsWith x.1 = false := by simpa only [Bool.not_eq_true'] using hbefore x hx
    simp [hq]
  simp [hnone, he]

end Match

/-- The registry routes a path to the first entry of the table with the longest prefix that
begins the path's bytes, earliest on ties, and to the default route when no prefix does. The
table may come in any order and may repeat prefixes. -/
theorem routeFor_longest_prefix (routes : NameMap (List Endpoint)) (t : List (String × String))
    (d path : String) :
    (∃ e, FirstLongest t path e ∧ (new routes t d).routeFor path = e.2) ∨
      ((∀ x ∈ t, ¬ BytePrefix x.1 path) ∧ (new routes t d).routeFor path = d) := by
  cases hf : (orderPrefixes t).find? (fun p => path.startsWith p.1) with
  | none =>
    right
    refine ⟨fun x hx hb => ?_, by simp [routeFor, new, hf]⟩
    exact List.find?_eq_none.1 hf x (List.mem_mergeSort.2 hx) ((startsWith_iff_bytePrefix _ _).2 hb)
  | some e =>
    left
    obtain ⟨hp, before, after, ht, hbefore⟩ := List.find?_eq_some_iff_append.1 (find?_size_of_find? hf)
    have hle : ∀ x ∈ t, path.startsWith x.1 = true → x.1.utf8ByteSize ≤ e.1.utf8ByteSize :=
      fun x hx hq => size_le_of_find? hf hx hq
    have he : path.startsWith e.1 = true := by simpa using hp
    refine ⟨e, ⟨before, after, ht, (startsWith_iff_bytePrefix _ _).1 he, fun x hx hb => ?_,
      fun x hx hb => ?_⟩, by simp [routeFor, new, hf]⟩
    · -- an earlier match of the same length would have been found first
      have hq := (startsWith_iff_bytePrefix _ _).2 hb
      have hne : x.1.utf8ByteSize ≠ e.1.utf8ByteSize := by simpa [hq] using hbefore x hx
      have := hle x (by simp [ht, hx]) hq
      omega
    · exact hle x (by simp [ht, hx]) ((startsWith_iff_bytePrefix _ _).2 hb)

end ApiGateway.Registry
