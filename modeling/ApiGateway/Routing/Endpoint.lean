/-!
# Weighted endpoints

A route sends its traffic to backend endpoints, each a `host:port` address with a weight.
One endpoint is chosen by a draw `r` below the total weight: the first endpoint whose
running total of weights passes `r`. An endpoint of weight zero is never chosen, and a
list whose weights sum to zero has no choice.

Main statements:
* `pick?_isSome_iff`: a draw chooses an endpoint exactly when it is below the total.
* `pick?_weight_pos`: the chosen endpoint has a positive weight.
-/

namespace ApiGateway

/-- One backend address with its selection weight. -/
structure Endpoint where
  /-- The backend's `host:port`. -/
  address : String
  /-- How often the endpoint is chosen relative to its route's other endpoints. -/
  weight : Nat
  deriving DecidableEq, Repr

namespace Endpoint

/-- The sum of the weights of a list of endpoints. -/
def totalWeight : List Endpoint → Nat
  | [] => 0
  | e :: rest => e.weight + totalWeight rest

/-- The first endpoint whose running total of weights passes the draw `r`. -/
def pick? : List Endpoint → Nat → Option Endpoint
  | [], _ => none
  | e :: rest, r => if r < e.weight then some e else pick? rest (r - e.weight)

/-- The empty list weighs nothing. -/
@[simp] theorem totalWeight_nil : totalWeight [] = 0 := rfl

/-- A list weighs its first endpoint's weight and the rest's total. -/
@[simp] theorem totalWeight_cons (e : Endpoint) (rest : List Endpoint) :
    totalWeight (e :: rest) = e.weight + totalWeight rest := rfl

/-- A draw chooses an endpoint exactly when it is below the total weight. -/
theorem pick?_isSome_iff (eps : List Endpoint) (r : Nat) :
    (pick? eps r).isSome ↔ r < totalWeight eps := by
  induction eps generalizing r with
  | nil => simp [pick?]
  | cons e rest ih =>
    simp only [pick?, totalWeight_cons]
    by_cases h : r < e.weight
    · simp only [if_pos h, Option.isSome_some, true_iff]; omega
    · simp only [if_neg h, ih]; omega

/-- The chosen endpoint is one of the list's endpoints. -/
theorem pick?_mem (eps : List Endpoint) (r : Nat) (e : Endpoint) (h : pick? eps r = some e) :
    e ∈ eps := by
  induction eps generalizing r with
  | nil => simp [pick?] at h
  | cons a rest ih =>
    simp only [pick?] at h
    split at h
    · cases h; exact List.mem_cons_self
    · exact List.mem_cons_of_mem a (ih _ h)

/-- The chosen endpoint has a positive weight. -/
theorem pick?_weight_pos (eps : List Endpoint) (r : Nat) (e : Endpoint)
    (h : pick? eps r = some e) : 0 < e.weight := by
  induction eps generalizing r with
  | nil => simp [pick?] at h
  | cons a rest ih =>
    simp only [pick?] at h
    split at h
    · cases h; omega
    · exact ih _ h

end Endpoint

end ApiGateway
