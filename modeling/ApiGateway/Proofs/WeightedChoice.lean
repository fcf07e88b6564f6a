import Mathlib
import ApiGateway.Proofs.Pipeline

/-!
# The weighted draw

The endpoints of a route split the draws below its total weight into consecutive runs, one
per position of the list and as long as that position's weight. A draw chooses the position
whose run holds it: the first position whose running total of weights passes the draw. Every
draw below the total therefore chooses exactly one position, never one of weight zero, and
each position is chosen by exactly as many of the draws as its weight, which makes a uniform
draw a weighted random choice. Positions count, not endpoints: an endpoint listed twice has
two runs.

With fewer than `2 ^ 32` endpoints of 32-bit weights the total, and so every running total,
fits in 64 bits. A route of total weight zero yields no endpoint whatever the draw, and with
draws below the total a route yields none only when it is unknown or of weight zero.

Main statements:
* `pickIndex?_eq_some_iff`: the chosen position is the one whose run holds the draw.
* `card_pickIndex?`: each position is chosen by as many draws as its weight.
-/

namespace ApiGateway

namespace Endpoint

/-- The running total of the weights before position `i`. -/
def weightBefore (eps : List Endpoint) (i : Nat) : Nat := totalWeight (eps.take i)

/-- The position of the endpoint that a draw chooses: the first whose running total of
weights passes the draw. -/
def pickIndex? : List Endpoint → Nat → Option Nat
  | [], _ => none
  | e :: rest, r => if r < e.weight then some 0 else (pickIndex? rest (r - e.weight)).map (· + 1)

/-- The total weight of two lists is the sum of theirs. -/
theorem totalWeight_append (a b : List Endpoint) :
    totalWeight (a ++ b) = totalWeight a + totalWeight b := by
  induction a with
  | nil => simp
  | cons e rest ih =>
    simp only [List.cons_append, totalWeight_cons, ih]
    omega

/-- With every weight at most `w`, the total is at most `w` per endpoint. -/
theorem totalWeight_le_mul (eps : List Endpoint) (w : Nat) (h : ∀ e ∈ eps, e.weight ≤ w) :
    totalWeight eps ≤ eps.length * w := by
  induction eps with
  | nil => simp
  | cons e rest ih =>
    have he := h e List.mem_cons_self
    have hrest := ih fun e' he' => h e' (List.mem_cons_of_mem e he')
    rw [totalWeight_cons, List.length_cons, Nat.succ_mul]
    omega

/-- Fewer than `2 ^ 32` endpoints of 32-bit weights have a total that fits in 64 bits. -/
theorem totalWeight_lt_u64 (eps : List Endpoint) (hlen : eps.length < UInt32.size)
    (hw : ∀ e ∈ eps, e.weight < UInt32.size) : totalWeight eps < UInt64.size := by
  have hsum := totalWeight_le_mul eps 4294967295 fun e he => Nat.le_of_lt_succ (hw e he)
  have hmul : eps.length * 4294967295 ≤ 4294967295 * 4294967295 :=
    Nat.mul_le_mul_right _ (Nat.le_of_lt_succ hlen)
  calc totalWeight eps ≤ 4294967295 * 4294967295 := hsum.trans hmul
    _ < UInt64.size := by decide

/-- No weight comes before the first position. -/
@[simp] theorem weightBefore_zero (eps : List Endpoint) : weightBefore eps 0 = 0 := by
  simp [weightBefore]

/-- No weight comes before any position of the empty list. -/
@[simp] theorem weightBefore_nil (i : Nat) : weightBefore [] i = 0 := by
  simp [weightBefore]

/-- Before a later position come the first weight and the weights before it in the rest. -/
@[simp] theorem weightBefore_cons_succ (e : Endpoint) (rest : List Endpoint) (i : Nat) :
    weightBefore (e :: rest) (i + 1) = e.weight + weightBefore rest i := by
  simp [weightBefore]

/-- The run of position `i` is as long as its weight. -/
theorem weightBefore_succ (eps : List Endpoint) (i : Nat) (h : i < eps.length) :
    weightBefore eps (i + 1) = weightBefore eps i + eps[i].weight := by
  rw [weightBefore, weightBefore, List.take_add_one, List.getElem?_eq_getElem h,
    Option.toList_some, totalWeight_append]
  simp

/-- The weight before a position is at most the total. -/
theorem weightBefore_le_totalWeight (eps : List Endpoint) (i : Nat) :
    weightBefore eps i ≤ totalWeight eps := by
  have h := totalWeight_append (eps.take i) (eps.drop i)
  rw [List.take_append_drop] at h
  rw [weightBefore, h]
  omega

/-- Past the last position the running total is the whole total. -/
theorem weightBefore_of_length_le (eps : List Endpoint) {i : Nat} (h : eps.length ≤ i) :
    weightBefore eps i = totalWeight eps := by
  rw [weightBefore, List.take_of_length_le h]

/-- The chosen position is the one whose run holds the draw. -/
theorem pickIndex?_eq_some_iff (eps : List Endpoint) (r i : Nat) :
    pickIndex? eps r = some i ↔ weightBefore eps i ≤ r ∧ r < weightBefore eps (i + 1) := by
  induction eps generalizing r i with
  | nil => simp [pickIndex?]
  | cons e rest ih =>
    cases i with
    | zero =>
      by_cases h : r < e.weight
      · simp [pickIndex?, h]
      · simp [pickIndex?, h]
    | succ j =>
      -- past the head's run the draw moves on to the rest, less the head's weight
      by_cases h : r < e.weight
      · simp only [pickIndex?, h, if_true, Option.some.injEq, weightBefore_cons_succ]
        omega
      · simp only [pickIndex?, h, if_false, Option.map_eq_some_iff, weightBefore_cons_succ]
        constructor
        · rintro ⟨j', hj', hjj⟩
          obtain rfl : j' = j := by omega
          have := (ih (r - e.weight) j').1 hj'
          omega
        · intro hr
          exact ⟨j, (ih (r - e.weight) j).2 (by omega), rfl⟩

/-- The endpoint a draw chooses is the one at the chosen position. -/
theorem pick?_eq_bind_pickIndex? (eps : List Endpoint) (r : Nat) :
    pick? eps r = (pickIndex? eps r).bind fun i => eps[i]? := by
  induction eps generalizing r with
  | nil => rfl
  | cons e rest ih =>
    by_cases h : r < e.weight
    · simp [pick?, pickIndex?, h]
    · simp [pick?, pickIndex?, h, ih, Option.bind_map]

/-- A chosen position lies in the list. -/
theorem pickIndex?_lt_length {eps : List Endpoint} {r i : Nat} (h : pickIndex? eps r = some i) :
    i < eps.length := by
  by_contra hi
  have hr := (pickIndex?_eq_some_iff eps r i).1 h
  rw [weightBefore_of_length_le eps (by omega), weightBefore_of_length_le eps (by omega)] at hr
  omega

/-- A draw below the total chooses a position. -/
theorem pickIndex?_isSome (eps : List Endpoint) {r : Nat} (hr : r < totalWeight eps) :
    (pickIndex? eps r).isSome := by
  induction eps generalizing r with
  | nil => simp at hr
  | cons e rest ih =>
    rw [totalWeight_cons] at hr
    by_cases h : r < e.weight
    · simp [pickIndex?, h]
    · simp only [pickIndex?, h, if_false, Option.isSome_map]
      exact ih (by omega)

/-- Each position is chosen by as many draws below the total as its weight. -/
theorem card_pickIndex? (eps : List Endpoint) (i : Nat) (h : i < eps.length) :
    ((Finset.range (totalWeight eps)).filter fun r => pickIndex? eps r = some i).card =
      eps[i].weight := by
  have hrun : (Finset.range (totalWeight eps)).filter (fun r => pickIndex? eps r = some i) =
      Finset.Ico (weightBefore eps i) (weightBefore eps (i + 1)) := by
    ext r
    have htop := weightBefore_le_totalWeight eps (i + 1)
    simp only [Finset.mem_filter, Finset.mem_range, Finset.mem_Ico, pickIndex?_eq_some_iff]
    omega
  rw [hrun, Nat.card_Ico, weightBefore_succ eps i h]
  omega

end Endpoint

namespace Gateway.GatewayState

/-- A route of total weight zero yields no endpoint, whatever the draw. -/
theorem chooseEndpoint_of_zero (g : GatewayState) (env : Surroundings) {route : String}
    (h : g.registry.totalWeight? route = some 0) : g.chooseEndpoint env route = none := by
  simp [chooseEndpoint, h]

end Gateway.GatewayState

open Endpoint Gateway

/-- The weighted draw, over every endpoint list: a draw below the total weight chooses the
unique position whose run of draws holds it, and returns its endpoint, which has a positive
weight; each position is chosen by exactly as many of the draws below the total as its
weight; a list of total weight zero yields nothing; and with fewer than `2 ^ 32` endpoints
of 32-bit weights the total and every running total fit in 64 bits. At a gateway, a route of
total weight zero yields no endpoint whatever the draw, and with draws below the total a
route yields none exactly when it is unknown or of total weight zero. -/
theorem pick?_weighted_law (eps : List Endpoint) :
    (eps.length < UInt32.size → (∀ e ∈ eps, e.weight < UInt32.size) →
      totalWeight eps < UInt64.size) ∧
    (∀ k, weightBefore eps k ≤ totalWeight eps) ∧
    (∀ r < totalWeight eps, ∃ i, ∃ h : i < eps.length,
      weightBefore eps i ≤ r ∧ r < weightBefore eps (i + 1) ∧
      (∀ j, weightBefore eps j ≤ r → r < weightBefore eps (j + 1) → j = i) ∧
      pickIndex? eps r = some i ∧ pick? eps r = some eps[i] ∧ 0 < eps[i].weight) ∧
    (∀ i (h : i < eps.length),
      ((Finset.range (totalWeight eps)).filter fun r => pickIndex? eps r = some i).card =
        eps[i].weight) ∧
    (totalWeight eps = 0 → ∀ r, pick? eps r = none) ∧
    ∀ (g : GatewayState) (env : Surroundings) (route : String),
      (g.registry.totalWeight? route = some 0 → g.chooseEndpoint env route = none) ∧
      (env.DrawsBelowTotal → (g.chooseEndpoint env route = none ↔
        g.registry.routes.find? route = none ∨
          ∃ eps', g.registry.routes.find? route = some eps' ∧ totalWeight eps' = 0)) := by
  refine ⟨totalWeight_lt_u64 eps, weightBefore_le_totalWeight eps, fun r hr => ?_,
    card_pickIndex? eps, fun hz r => ?_, fun g env route => ⟨GatewayState.chooseEndpoint_of_zero g env, ?_⟩⟩
  · obtain ⟨i, hi⟩ := Option.isSome_iff_exists.1 (pickIndex?_isSome eps hr)
    have hlt := pickIndex?_lt_length hi
    obtain ⟨hlo, hhi⟩ := (pickIndex?_eq_some_iff eps r i).1 hi
    have hw := weightBefore_succ eps i hlt
    refine ⟨i, hlt, hlo, hhi, fun j hjlo hjhi => ?_, hi, ?_, by omega⟩
    · -- the runs do not overlap: the position whose run holds the draw is the chosen one
      have hj := (pickIndex?_eq_some_iff eps r j).2 ⟨hjlo, hjhi⟩
      rw [hi] at hj
      exact (Option.some.inj hj).symm
    · simp [pick?_eq_bind_pickIndex?, hi, List.getElem?_eq_getElem hlt]
  · have hnone : ¬ r < totalWeight eps := by omega
    rw [← Option.not_isSome_iff_eq_none, pick?_isSome_iff]
    exact hnone
  · intro hdraw
    rw [GatewayState.chooseEndpoint_eq_none_iff_of_route hdraw route]
    cases hf : g.registry.routes.find? route with
    | none => simp [Registry.totalWeight?, hf]
    | some eps' => simp [Registry.totalWeight?, hf]

end ApiGateway
