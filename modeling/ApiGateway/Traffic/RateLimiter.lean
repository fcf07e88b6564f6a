import ApiGateway.Traffic.Clock

/-!
# Per-client rate limiting

Requests are counted in slots keyed by client address and clock second. The first
request of a client in a second opens its slot with a count of one; later requests in the
same second are admitted while the count is below the limit, and each admitted one adds
one. A limit of zero admits nothing and opens no slot. Slots are kept: returning to an
earlier second finds that second's count.

A `Meter` is a limiter together with the clock whose seconds it counts by; its callers ask for
admission and set or advance the clock.

Main statements:
* `allow_zero`: with a limit of zero nothing is admitted and no slot is opened.
* `allow_fresh`: the first request of a client in a second is admitted under a positive
  limit and opens that slot.
-/

namespace ApiGateway

/-- The request counter of one client in one second. -/
structure RateSlot where
  /-- The client address. -/
  client : String
  /-- The clock second. -/
  second : Nat
  /-- Requests admitted so far. -/
  count : Nat
  deriving DecidableEq, Repr

/-- The rate limiter: the limit and the slots opened so far, oldest first. -/
structure RateLimiter where
  /-- Requests admitted per client and second. -/
  limit : Nat
  /-- The open slots, oldest first. -/
  slots : List RateSlot
  deriving Repr

namespace RateLimiter

/-- A limiter with no slots. -/
def new (limit : Nat) : RateLimiter := ⟨limit, []⟩

/-- The count of a client's slot in a second; zero when the slot is not open. -/
def count (rl : RateLimiter) (client : String) (second : Nat) : Nat :=
  match rl.slots.find? (fun s => s.client == client && s.second == second) with
  | some s => s.count
  | none => 0

/-- The number of open slots. -/
def tracked (rl : RateLimiter) : Nat := rl.slots.length

/-- Adds one to the count of the slot of `client` and `second`. -/
def bump (client : String) (second : Nat) : List RateSlot → List RateSlot
  | [] => []
  | s :: rest =>
    if s.client == client && s.second == second then { s with count := s.count + 1 } :: rest
    else s :: bump client second rest

/-- Decides a request of a client in a second: whether it is admitted, and the limiter
after it. -/
def allow (rl : RateLimiter) (client : String) (second : Nat) : Bool × RateLimiter :=
  match rl.slots.find? (fun s => s.client == client && s.second == second) with
  | some s =>
    if s.count < rl.limit then (true, { rl with slots := bump client second rl.slots })
    else (false, rl)
  | none =>
    if rl.limit == 0 then (false, rl)
    else (true, { rl with slots := rl.slots ++ [⟨client, second, 1⟩] })

/-- The count of a slot that was never opened is zero. -/
theorem count_new (limit : Nat) (client : String) (second : Nat) :
    (new limit).count client second = 0 := rfl

/-- With a limit of zero nothing is admitted and no slot is opened. -/
theorem allow_zero (rl : RateLimiter) (client : String) (second : Nat) (h : rl.limit = 0) :
    rl.allow client second = (false, rl) := by
  unfold allow
  split
  · simp [h]
  · simp [h]

/-- The first request of a client in a second is admitted under a positive limit and
opens that slot. -/
theorem allow_fresh (rl : RateLimiter) (client : String) (second : Nat) (hpos : 0 < rl.limit)
    (hnew : rl.slots.find? (fun s => s.client == client && s.second == second) = none) :
    rl.allow client second = (true, { rl with slots := rl.slots ++ [⟨client, second, 1⟩] }) := by
  have h0 : (rl.limit == 0) = false := by simp; omega
  simp [allow, hnew, h0]

/-- A refused request changes nothing. -/
theorem allow_refused (rl : RateLimiter) (client : String) (second : Nat)
    (h : (rl.allow client second).1 = false) : (rl.allow client second).2 = rl := by
  unfold allow at h ⊢
  cases hf : rl.slots.find? (fun s => s.client == client && s.second == second) with
  | some s =>
    by_cases hc : s.count < rl.limit
    · simp [hf, hc] at h
    · simp [hc]
  | none =>
    by_cases hz : rl.limit = 0
    · simp [hz]
    · simp [hf, hz] at h

end RateLimiter

/-- A rate limiter with the clock whose seconds it counts by. -/
structure Meter where
  /-- The limiter. -/
  limiter : RateLimiter
  /-- The request clock. -/
  clock : Clock

namespace Meter

/-- A limiter with no slots and a clock showing second `start`. -/
def start (limit start : Nat) : Meter := ⟨RateLimiter.new limit, Clock.ofSeconds start⟩

/-- What a caller does to a meter. -/
inductive Op where
  /-- Asks admission for a request of a client in the current second. -/
  | allow (client : String)
  /-- Moves the clock forward. -/
  | advance (secs : Nat)
  /-- Sets the clock. -/
  | set (secs : Nat)
  deriving DecidableEq, Repr

/-- Carries out an operation: the admission answer for `allow`, and the new meter. -/
def perform (m : Meter) : Op → Option Bool × Meter
  | .allow client =>
    let (ok, rl) := m.limiter.allow client m.clock.now
    (some ok, { m with limiter := rl })
  | .advance secs => (none, { m with clock := m.clock.advance secs })
  | .set secs => (none, { m with clock := m.clock.set secs })

/-- The meter after a run of operations. -/
def after (m : Meter) (ops : List Op) : Meter := ops.foldl (fun m op => (m.perform op).2) m

end Meter

end ApiGateway
