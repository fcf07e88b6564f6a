/-!
# The circuit breaker

One breaker guards all backends. While closed it lets requests through and counts
failures: a failure is a transport error or a response whose status is a server error
(500 to 599). When the count exceeds the failure threshold the breaker opens, and a reset
is due one cool-down after that moment. While open it refuses requests and ignores
failures. When the reset falls due the breaker closes with a count of zero. Successes
never lower the count.

Time is counted in milliseconds. A reset falls due at the first moment the clock reaches
its deadline, so a cool-down of zero resets within the same moment. The deadline is the one the
runtime's timer keeps (`resetDeadline`): the timer counts milliseconds from the runtime's start
in 64 bits and fires a later deadline at its last tick, and a deadline whose seconds the
runtime's clock cannot count, a signed 64-bit number, is put thirty years ahead instead. The
clock is taken to start at zero seconds; a real start moves that bound by the machine's uptime.

The threshold and the count are 32-bit words, and a failure adds one to the count as a
32-bit word does: the largest word, 4294967295, goes to zero, as in an optimised build (a
build with overflow checks panics at that increment instead, leaving the count as it was).
Only the largest threshold lets the count reach the largest word while closed, so only
there does the increment wrap, and a breaker with that threshold never opens.

Main statements:
* `recordFailure_open`: failures are ignored while the breaker is open.
* `failures_le_of_closed`: while closed, the count never exceeds the threshold.
* `toNat_failures_succ`: a failure counted below the largest word adds one to the count.
* `resetDeadline_le`, `resetDeadline_of_le`: a reset falls due at most one cool-down ahead, and
  exactly then when the timer reaches that deadline.
-/

namespace ApiGateway

/-- The phase of the breaker. -/
inductive BreakerPhase where
  /-- Requests pass and failures are counted. -/
  | closed
  /-- Requests are refused until the reset at `resetAt`. -/
  | opened (resetAt : Nat)
  deriving DecidableEq, Repr

/-- The breaker: its settings, phase and failure count. -/
structure Breaker where
  /-- The breaker opens once the count exceeds this. -/
  threshold : UInt32
  /-- Milliseconds from opening to the reset. -/
  coolDownMs : Nat
  /-- Closed, or open with the moment of the reset. -/
  phase : BreakerPhase
  /-- Failures counted since the last reset, as a 32-bit word. -/
  failures : UInt32
  deriving DecidableEq, Repr

namespace Breaker

/-- The last moment, in milliseconds from the runtime's start, at which its timer fires: a
deadline after it fires then. -/
def lastTick : Nat := 18446744073709551613

/-- How far ahead, in milliseconds, the runtime puts a sleep whose deadline its clock cannot
count: thirty years of 365 days. -/
def farFutureMs : Nat := 946080000000

/-- The largest number of seconds the runtime's clock counts. -/
def clockSecondsLimit : Nat := 9223372036854775807

/-- The moment a reset spawned at `now` falls due for a cool-down of `coolDownMs`: one
cool-down later, or thirty years later when the clock cannot count that deadline's seconds, and
at the timer's last tick if that comes first. -/
def resetDeadline (now coolDownMs : Nat) : Nat :=
  min (if clockSecondsLimit < now / 1000 + coolDownMs / 1000 then now + farFutureMs
    else now + coolDownMs) lastTick

/-- A reset falls due at most one cool-down after it is spawned. -/
theorem resetDeadline_le (now coolDownMs : Nat) : resetDeadline now coolDownMs ≤ now + coolDownMs := by
  unfold resetDeadline lastTick farFutureMs clockSecondsLimit
  split <;> omega

/-- A reset whose deadline the timer reaches falls due exactly one cool-down later. -/
theorem resetDeadline_of_le {now coolDownMs : Nat} (h : now + coolDownMs ≤ lastTick) :
    resetDeadline now coolDownMs = now + coolDownMs := by
  unfold lastTick at h
  unfold resetDeadline clockSecondsLimit lastTick
  split <;> omega

/-- A closed breaker with no failures. -/
def new (threshold : UInt32) (coolDownSecs : Nat) : Breaker :=
  ⟨threshold, coolDownSecs * 1000, .closed, 0⟩

/-- Whether the breaker is closed. -/
def isClosed (b : Breaker) : Bool := b.phase == .closed

/-- Whether a request may pass. -/
def allows (b : Breaker) : Bool := b.isClosed

/-- Counts a failure at moment `now`: while closed the count rises by one, as a 32-bit word,
and the breaker opens when it exceeds the threshold; while open nothing changes. -/
def recordFailure (b : Breaker) (now : Nat) : Breaker :=
  match b.phase with
  | .opened _ => b
  | .closed =>
    let n := b.failures + 1
    if b.threshold < n then
      { b with phase := .opened (resetDeadline now b.coolDownMs), failures := n }
    else { b with failures := n }

/-- Whether a status code counts as a failure: a server error, 500 to 599. -/
def isFailureStatus (status : Nat) : Bool := 500 ≤ status && status ≤ 599

/-- Records a backend's response status at moment `now`. -/
def recordResponse (b : Breaker) (now : Nat) (status : Nat) : Breaker :=
  if isFailureStatus status then b.recordFailure now else b

/-- Carries out a reset that has fallen due by moment `now`. -/
def settle (b : Breaker) (now : Nat) : Breaker :=
  match b.phase with
  | .opened resetAt => if resetAt ≤ now then { b with phase := .closed, failures := 0 } else b
  | .closed => b

/-- What a caller does to the breaker. -/
inductive Op where
  /-- A backend answered with this status. -/
  | response (status : Nat)
  /-- A request failed in transport. -/
  | failure
  /-- Asks whether a request may pass. -/
  | allow
  /-- Waits this many milliseconds on the virtual clock. -/
  | sleep (ms : Nat)
  deriving DecidableEq, Repr

/-- How long an operation waits on the clock. -/
def Op.delay : Op → Nat
  | .sleep ms => ms
  | _ => 0

/-- How long a run of operations waits on the clock in all. -/
def Op.elapsed : List Op → Nat
  | [] => 0
  | op :: ops => op.delay + Op.elapsed ops

/-- What the breaker shows after an operation: whether it is closed, its failure count, and
the answer when the operation asked whether a request may pass. -/
structure Report where
  closed : Bool
  failures : Nat
  /-- The answer to `allow`, for that operation only. -/
  allowed : Option Bool
  deriving DecidableEq, Repr

/-- Carries out an operation at moment `now`, then the reset that has fallen due by the
moment after it: the answer to `allow`, the breaker and that moment. -/
def perform (b : Breaker) (now : Nat) : Op → Option Bool × Breaker × Nat
  | .response status => (none, (b.recordResponse now status).settle now, now)
  | .failure => (none, (b.recordFailure now).settle now, now)
  | .allow => (some b.allows, b.settle now, now)
  | .sleep ms => (none, b.settle (now + ms), now + ms)

/-- The reports of a run of operations that starts at moment `now`. -/
def reports (b : Breaker) (now : Nat) : List Op → List Report
  | [] => []
  | op :: ops =>
    let (answer, b', now') := b.perform now op
    ⟨b'.isClosed, b'.failures.toNat, answer⟩ :: reports b' now' ops

/-- The breaker and the moment after a run of operations that starts at moment `now`. -/
def after (b : Breaker) (now : Nat) (ops : List Op) : Breaker × Nat :=
  ops.foldl (fun s op => (s.1.perform s.2 op).2) (b, now)

/-- Failures are ignored while the breaker is open. -/
theorem recordFailure_open (b : Breaker) (now t : Nat) (h : b.phase = .opened t) :
    b.recordFailure now = b := by
  simp [recordFailure, h]

/-- A breaker whose count stays within the threshold while it is closed. -/
def Bounded (b : Breaker) : Prop := b.phase = .closed → b.failures ≤ b.threshold

/-- After counting a failure, a closed breaker's count is within the threshold. -/
theorem recordFailure_bounded (b : Breaker) (now : Nat) : (b.recordFailure now).Bounded := by
  unfold Bounded recordFailure
  cases hp : b.phase with
  | opened t => simp [hp]
  | closed =>
    simp only
    split
    · simp
    · intro _
      exact UInt32.not_lt.1 ‹_›

/-- A reset keeps a closed breaker's count within the threshold. -/
theorem settle_bounded (b : Breaker) (now : Nat) (h : b.Bounded) : (b.settle now).Bounded := by
  unfold Bounded settle
  cases hp : b.phase with
  | closed =>
    simp only
    exact h
  | opened t =>
    simp only
    split
    · simp
    · simp [hp]

/-- While closed, the count never exceeds the threshold, after any failures and resets. -/
theorem failures_le_of_closed (b : Breaker) (h : b.Bounded) (steps : List (Bool × Nat)) :
    (steps.foldl (fun acc s => if s.1 then acc.recordFailure s.2 else acc.settle s.2)
      b).Bounded := by
  induction steps generalizing b with
  | nil => simpa using h
  | cons s rest ih =>
    simp only [List.foldl_cons]
    apply ih
    split
    · exact recordFailure_bounded b s.2
    · exact settle_bounded b s.2 h

/-- A failure counted below the largest 32-bit word adds one to the count; only the largest
word wraps, to zero. -/
theorem toNat_failures_succ {n : UInt32} (h : n.toNat < 4294967295) :
    (n + 1).toNat = n.toNat + 1 := by
  rw [UInt32.toNat_add, UInt32.toNat_one]
  omega

example : (4294967295 + 1 : UInt32) = 0 := by decide

end Breaker

end ApiGateway
