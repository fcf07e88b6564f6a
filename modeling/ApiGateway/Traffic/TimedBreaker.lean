import ApiGateway.Traffic.Breaker

/-!
# The breaker with its reset tasks

The service keeps the breaker in two places: a guarded cell with the phase and the failure
count, and the reset tasks that wait on the runtime's clock. Opening the breaker spawns a
task that sleeps for the cool-down and then closes the cell with a count of zero, whatever
the cell holds by then. The clock is virtual: it moves only when a caller sleeps, and after
every operation each task whose deadline has come runs, so a sleep that lands on a deadline
sees the reset. A task's deadline is the one the runtime's timer keeps
(`Breaker.resetDeadline`).

The threshold and the count are 32-bit words, and the count rises as one: from the largest
word a failure wraps it to zero.

`Breaker` folds the pending task into the phase, as the moment of the reset; the proofs show
the two agree.
-/

namespace ApiGateway

/-- The phase a breaker's cell records. -/
inductive CircuitState where
  /-- Requests pass and failures are counted. -/
  | closed
  /-- Requests are refused. -/
  | opened
  deriving DecidableEq, Repr

/-- A breaker cell with the reset tasks pending on a virtual clock. -/
structure TimedBreaker where
  /-- The breaker opens once the count exceeds this. -/
  threshold : UInt32
  /-- Milliseconds from opening to the reset. -/
  coolDownMs : Nat
  /-- The phase the cell records. -/
  state : CircuitState
  /-- The failures the cell has counted, as a 32-bit word. -/
  failures : UInt32
  /-- The deadlines of the reset tasks spawned and not yet run, oldest first. -/
  pending : List Nat
  /-- The virtual clock in milliseconds. -/
  clock : Nat
  deriving DecidableEq, Repr

namespace TimedBreaker

/-- A closed cell with no failures and no task, at moment `start`. -/
def new (threshold : UInt32) (coolDownSecs start : Nat) : TimedBreaker :=
  ⟨threshold, coolDownSecs * 1000, .closed, 0, [], start⟩

/-- Whether the cell is closed, which is whether a request may pass. -/
def isClosed (b : TimedBreaker) : Bool := b.state == .closed

/-- Spawns a reset task due one cool-down from now, as the runtime's timer keeps it. -/
def scheduleReset (b : TimedBreaker) : TimedBreaker :=
  { b with pending := b.pending ++ [Breaker.resetDeadline b.clock b.coolDownMs] }

/-- Counts a failure: while closed the count rises by one, as a 32-bit word, and when it
exceeds the threshold the cell opens and a reset task is spawned; while open nothing
changes. -/
def recordFailure (b : TimedBreaker) : TimedBreaker :=
  match b.state with
  | .opened => b
  | .closed =>
    let n := b.failures + 1
    if b.threshold < n then { b with state := .opened, failures := n }.scheduleReset
    else { b with failures := n }

/-- Records a backend's response status; only a server error counts. -/
def recordResponse (b : TimedBreaker) (status : Nat) : TimedBreaker :=
  if Breaker.isFailureStatus status then b.recordFailure else b

/-- The body of a reset task: the cell closes with a count of zero. -/
def reset (b : TimedBreaker) : TimedBreaker := { b with state := .closed, failures := 0 }

/-- Runs every reset task whose deadline has come, oldest first; the others keep waiting. -/
def runDue (b : TimedBreaker) : TimedBreaker :=
  (b.pending.filter (· ≤ b.clock)).foldl (fun acc _ => acc.reset)
    { b with pending := b.pending.filter (b.clock < ·) }

/-- Carries out an operation and then every task that has fallen due: the answer to `allow`
and the new state. -/
def perform (b : TimedBreaker) : Breaker.Op → Option Bool × TimedBreaker
  | .response status => (none, (b.recordResponse status).runDue)
  | .failure => (none, b.recordFailure.runDue)
  | .allow => (some b.isClosed, b.runDue)
  | .sleep ms => (none, { b with clock := b.clock + ms }.runDue)

/-- The reports of a run of operations. -/
def reports (b : TimedBreaker) : List Breaker.Op → List Breaker.Report
  | [] => []
  | op :: ops =>
    let (answer, b') := b.perform op
    ⟨b'.isClosed, b'.failures.toNat, answer⟩ :: reports b' ops

/-- The state after a run of operations. -/
def after (b : TimedBreaker) (ops : List Breaker.Op) : TimedBreaker :=
  ops.foldl (fun b op => (b.perform op).2) b

end TimedBreaker

end ApiGateway
