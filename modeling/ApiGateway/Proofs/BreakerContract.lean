import Mathlib
import ApiGateway.Proofs.BreakerTimer

/-!
# The breaker against its contract

The breaker's contract describes a machine whose failure count is a natural number
(`IdealBreaker`). It starts closed with count zero. A failure counted while closed adds one,
and once the count exceeds the threshold the machine opens, with its reset due one cool-down
later. Failures while open change nothing. When the clock reaches the reset, the machine
closes with count zero. A request may pass exactly while the machine is closed.

The service counts in a 32-bit word, and its reset waits on the runtime's timer
(`Breaker.resetDeadline`). Below the largest threshold the two agree on every run that ends one
cool-down before the timer's last tick:
while closed the count stays within the threshold, so a counted failure never meets the
largest word and adds exactly one (`Breaker.NoWrap`). At the largest threshold, 4294967295,
the 4294967296-th failure of a closed period wraps the count to zero where the contract's
machine opens, and a breaker with that threshold never opens. Past the timer's range the
runtime moves a reset whose deadline its clock cannot count to thirty years ahead, and a timer
due after its last tick fires at that tick, where the contract's machine waits a full
cool-down.

Main statements:
* `TimedBreaker.reports_eq_ideal`: below the largest threshold, every run of the service's
  breaker within the timer's range, reset tasks included, reports what the contract's machine
  reports, and the tasks follow that machine's reset moment.
* `TimedBreaker.reports_ne_ideal_at_max`: at the largest threshold the two part after
  4294967296 failures.
* `TimedBreaker.reports_ne_ideal_far_future`: with a cool-down the clock cannot count, the
  service closes again after thirty years while the contract's machine stays open.
* `TimedBreaker.failures_no_wrap`: below the largest threshold the count never passes the
  threshold plus one, a failure counted while closed adds exactly one, and the breaker opens
  at the failure after the threshold's number of them.
* `TimedBreaker.failures_wrap_at_max`: at the largest threshold, 4294967296 failures bring a
  new breaker back to itself: the count wrapped to zero and the breaker never opened.
-/

namespace ApiGateway

/-- The breaker as its contract describes it, counting failures in natural numbers. -/
structure IdealBreaker where
  /-- The machine opens once the count exceeds this. -/
  threshold : Nat
  /-- Milliseconds from opening to the reset. -/
  coolDownMs : Nat
  /-- Closed, or open with the moment of the reset. -/
  phase : BreakerPhase
  /-- Failures counted since the last reset. -/
  failures : Nat
  deriving DecidableEq, Repr

namespace IdealBreaker

/-- A closed machine with no failures. -/
def new (threshold coolDownSecs : Nat) : IdealBreaker :=
  ⟨threshold, coolDownSecs * 1000, .closed, 0⟩

/-- Whether the machine is closed, which is whether a request may pass. -/
def isClosed (b : IdealBreaker) : Bool := b.phase == .closed

/-- Counts a failure at moment `now`: while closed the count rises by one and the machine
opens when it exceeds the threshold; while open nothing changes. -/
def recordFailure (b : IdealBreaker) (now : Nat) : IdealBreaker :=
  match b.phase with
  | .opened _ => b
  | .closed =>
    if b.threshold < b.failures + 1 then
      { b with phase := .opened (now + b.coolDownMs), failures := b.failures + 1 }
    else { b with failures := b.failures + 1 }

/-- Closes the machine with count zero once the clock reaches its reset. -/
def settle (b : IdealBreaker) (now : Nat) : IdealBreaker :=
  match b.phase with
  | .opened resetAt => if resetAt ≤ now then { b with phase := .closed, failures := 0 } else b
  | .closed => b

/-- Carries out an operation at moment `now`, then the reset that has fallen due by the moment
after it: the answer to `allow`, the machine and that moment. -/
def perform (b : IdealBreaker) (now : Nat) : Breaker.Op → Option Bool × IdealBreaker × Nat
  | .response status =>
    (none, (if Breaker.isFailureStatus status then b.recordFailure now else b).settle now, now)
  | .failure => (none, (b.recordFailure now).settle now, now)
  | .allow => (some b.isClosed, b.settle now, now)
  | .sleep ms => (none, b.settle (now + ms), now + ms)

/-- The reports of a run of operations that starts at moment `now`. -/
def reports (b : IdealBreaker) (now : Nat) : List Breaker.Op → List Breaker.Report
  | [] => []
  | op :: ops =>
    let (answer, b', now') := b.perform now op
    ⟨b'.isClosed, b'.failures, answer⟩ :: reports b' now' ops

/-- The machine and the moment after a run of operations that starts at moment `now`. -/
def after (b : IdealBreaker) (now : Nat) (ops : List Breaker.Op) : IdealBreaker × Nat :=
  ops.foldl (fun s op => (s.1.perform s.2 op).2) (b, now)

/-- A run is its first operation followed by the rest, from where that operation left the
machine. -/
theorem after_cons (b : IdealBreaker) (now : Nat) (op : Breaker.Op) (ops : List Breaker.Op) :
    b.after now (op :: ops) = (b.perform now op).2.1.after (b.perform now op).2.2 ops := rfl

/-- A run's reports are those of its first part followed by those of the rest, from where the
first part left the machine. -/
theorem reports_append (b : IdealBreaker) (now : Nat) (ops₁ ops₂ : List Breaker.Op) :
    b.reports now (ops₁ ++ ops₂) =
      b.reports now ops₁ ++ (b.after now ops₁).1.reports (b.after now ops₁).2 ops₂ := by
  induction ops₁ generalizing b now with
  | nil => rfl
  | cons op ops ih =>
    simp only [List.cons_append, reports]
    rw [ih]
    rfl

/-- The contract reports once for each operation. -/
theorem length_reports (b : IdealBreaker) (now : Nat) (ops : List Breaker.Op) :
    (b.reports now ops).length = ops.length := by
  induction ops generalizing b now with
  | nil => rfl
  | cons op ops ih => simp [reports, ih]

/-- Failures that keep the count within the threshold only count: from a closed machine,
`n` failures leave it closed with `n` more. -/
theorem after_replicate_failure {b : IdealBreaker} (hb : b.phase = .closed) {n : Nat}
    (hn : b.failures + n ≤ b.threshold) (now : Nat) :
    b.after now (List.replicate n .failure) = ({ b with failures := b.failures + n }, now) := by
  induction n generalizing b with
  | zero => rfl
  | succ n ih =>
    have hstep : (b.recordFailure now).settle now = { b with failures := b.failures + 1 } := by
      simp only [recordFailure, hb, if_neg (show ¬b.threshold < b.failures + 1 by omega)]
      simp [settle]
    rw [List.replicate_succ, after_cons]
    simp only [perform]
    rw [hstep, @ih { b with failures := b.failures + 1 } hb (by simp only; omega)]
    simp only [Nat.add_assoc, Nat.add_comm 1 n]

end IdealBreaker

namespace Breaker

/-- A run is its first operation followed by the rest, from where that operation left the
breaker. -/
theorem after_cons (b : Breaker) (now : Nat) (op : Op) (ops : List Op) :
    b.after now (op :: ops) = (b.perform now op).2.1.after (b.perform now op).2.2 ops := rfl

/-- A run's reports are those of its first part followed by those of the rest, from where the
first part left the breaker. -/
theorem reports_append (b : Breaker) (now : Nat) (ops₁ ops₂ : List Op) :
    b.reports now (ops₁ ++ ops₂) =
      b.reports now ops₁ ++ (b.after now ops₁).1.reports (b.after now ops₁).2 ops₂ := by
  induction ops₁ generalizing b now with
  | nil => rfl
  | cons op ops ih =>
    simp only [List.cons_append, reports]
    rw [ih]
    rfl

/-- A run is its first part followed by the rest, from where the first part left the
breaker. -/
theorem after_append (b : Breaker) (now : Nat) (ops₁ ops₂ : List Op) :
    b.after now (ops₁ ++ ops₂) = (b.after now ops₁).1.after (b.after now ops₁).2 ops₂ := by
  simp only [after, List.foldl_append]

/-- The breaker reports once for each operation. -/
theorem length_reports (b : Breaker) (now : Nat) (ops : List Op) :
    (b.reports now ops).length = ops.length := by
  induction ops generalizing b now with
  | nil => rfl
  | cons op ops ih => simp [reports, ih]

/-- Failures that keep the count within the threshold only count: from a closed breaker, `n`
failures leave it closed with `n` more, so the count's word never meets the largest word. -/
theorem after_replicate_failure {b : Breaker} (hb : b.phase = .closed) {n : Nat}
    (hn : b.failures.toNat + n ≤ b.threshold.toNat) (now : Nat) :
    b.after now (List.replicate n .failure) =
      ({ b with failures := (b.failures.toNat + n).toUInt32 }, now) := by
  induction n generalizing b with
  | zero =>
    have hself : (b.failures.toNat + 0).toUInt32 = b.failures := by simp
    rw [hself]
    rfl
  | succ n ih =>
    have hwrap : (b.failures + 1).toNat = b.failures.toNat + 1 :=
      toNat_failures_succ (by have := b.threshold.toNat_lt; omega)
    have hstep : (b.recordFailure now).settle now = { b with failures := b.failures + 1 } := by
      have hle : ¬b.threshold < b.failures + 1 := by
        rw [UInt32.lt_iff_toNat_lt, hwrap]
        omega
      simp only [recordFailure, hb, if_neg hle]
      simp [settle]
    rw [List.replicate_succ, after_cons]
    simp only [perform]
    rw [hstep, @ih { b with failures := b.failures + 1 } hb (by simp only; omega)]
    simp only [hwrap, Nat.add_assoc, Nat.add_comm 1 n]

/-- The settings a breaker is made with: its threshold and its cool-down. -/
def settings (b : Breaker) : UInt32 × Nat := (b.threshold, b.coolDownMs)

/-- A failure keeps the settings. -/
theorem settings_recordFailure (b : Breaker) (now : Nat) :
    (b.recordFailure now).settings = b.settings := by
  unfold recordFailure
  split
  · rfl
  · dsimp only
    split <;> rfl

/-- Settling keeps the settings. -/
theorem settings_settle (b : Breaker) (now : Nat) : (b.settle now).settings = b.settings := by
  unfold settle
  split
  · split <;> rfl
  · rfl

/-- No operation changes the settings. -/
theorem settings_perform (b : Breaker) (now : Nat) (op : Op) :
    (b.perform now op).2.1.settings = b.settings := by
  cases op with
  | response status =>
    simp only [perform, recordResponse]
    split
    · rw [settings_settle, settings_recordFailure]
    · rw [settings_settle]
  | failure => simp only [perform, settings_settle, settings_recordFailure]
  | allow => simp only [perform, settings_settle]
  | sleep ms => simp only [perform, settings_settle]

/-- An operation moves the clock by its own wait. -/
theorem moment_perform (b : Breaker) (now : Nat) (op : Op) :
    (b.perform now op).2.2 = now + op.delay := by
  cases op <;> rfl

/-- No run changes the threshold. -/
theorem threshold_after (b : Breaker) (now : Nat) (ops : List Op) :
    (b.after now ops).1.threshold = b.threshold := by
  induction ops generalizing b now with
  | nil => rfl
  | cons op ops ih =>
    rw [after_cons, ih]
    exact congrArg Prod.fst (settings_perform b now op)

/-- From the largest count a failure wraps the count to zero, and the breaker stays closed
whatever its threshold: no word lies above the largest. -/
theorem recordFailure_wrap {b : Breaker} (hb : b.phase = .closed)
    (hmax : b.failures = 4294967295) (now : Nat) :
    b.recordFailure now = { b with failures := 0 } := by
  have hzero : b.failures + 1 = 0 := by rw [hmax]; decide
  have hle : ¬b.threshold < 0 := by
    rw [UInt32.lt_iff_toNat_lt]
    simp
  simp only [Breaker.recordFailure, hb, hzero, if_neg hle]

/-- A threshold other than the largest word is below it. -/
theorem toNat_lt_of_ne_max {t : UInt32} (ht : t ≠ 4294967295) : t.toNat < 4294967295 := by
  have hne : t.toNat ≠ 4294967295 := fun h => ht (UInt32.toNat_inj.1 h)
  have := t.toNat_lt
  omega

/-- The invariant that keeps the count from wrapping: the threshold is below the largest word,
a closed breaker's count is within the threshold, and no count passes the threshold plus
one. -/
structure NoWrap (b : Breaker) : Prop where
  belowMax : b.threshold.toNat < 4294967295
  closedWithin : b.phase = .closed → b.failures.toNat ≤ b.threshold.toNat
  within : b.failures.toNat ≤ b.threshold.toNat + 1

variable {b : Breaker}

/-- Under the invariant a failure counted while closed adds exactly one to the count. -/
theorem NoWrap.toNat_succ (h : b.NoWrap) (hb : b.phase = .closed) :
    (b.failures + 1).toNat = b.failures.toNat + 1 :=
  toNat_failures_succ (by have := h.closedWithin hb; have := h.belowMax; omega)

/-- A failure keeps the count away from the largest word. -/
theorem NoWrap.recordFailure (h : b.NoWrap) (now : Nat) : (b.recordFailure now).NoWrap := by
  cases hb : b.phase with
  | opened r =>
    rw [recordFailure_open b now r hb]
    exact h
  | closed =>
    have hsucc := h.toNat_succ hb
    have hin := h.closedWithin hb
    simp only [Breaker.recordFailure, hb]
    split
    · exact ⟨h.belowMax, (fun hc => by cases hc), by simp only; omega⟩
    next hle =>
      have hle' : (b.failures + 1).toNat ≤ b.threshold.toNat :=
        UInt32.le_iff_toNat_le.1 (UInt32.not_lt.1 hle)
      exact ⟨h.belowMax, fun _ => hle', by simp only; omega⟩

/-- Settling keeps the count away from the largest word. -/
theorem NoWrap.settle (h : b.NoWrap) (now : Nat) : (b.settle now).NoWrap := by
  unfold Breaker.settle
  split
  · split
    · exact ⟨h.belowMax, fun _ => by simp, by simp⟩
    · exact h
  · exact h

/-- Every operation keeps the invariant. -/
theorem NoWrap.perform (h : b.NoWrap) (now : Nat) (op : Op) : (b.perform now op).2.1.NoWrap := by
  cases op with
  | response status =>
    simp only [Breaker.perform, recordResponse]
    split
    · exact (h.recordFailure now).settle now
    · exact h.settle now
  | failure => exact (h.recordFailure now).settle now
  | allow => exact h.settle now
  | sleep ms => exact h.settle (now + ms)

/-- Every run keeps the invariant. -/
theorem NoWrap.after (h : b.NoWrap) (now : Nat) (ops : List Op) : (b.after now ops).1.NoWrap := by
  induction ops generalizing b now with
  | nil => exact h
  | cons op ops ih => exact ih (h.perform now op) _

/-- A new breaker whose threshold is below the largest word starts away from it. -/
theorem noWrap_new {threshold : UInt32} (ht : threshold ≠ 4294967295) (coolDownSecs : Nat) :
    (new threshold coolDownSecs).NoWrap :=
  ⟨toNat_lt_of_ne_max ht, fun _ => by simp [new], by simp [new]⟩

/-! ## The service's breaker and the contract's machine -/

/-- The service's breaker `b` shows the contract's machine `i`: the same settings, phase and
count. -/
structure Agrees (b : Breaker) (i : IdealBreaker) : Prop where
  threshold : b.threshold.toNat = i.threshold
  coolDown : b.coolDownMs = i.coolDownMs
  phase : b.phase = i.phase
  failures : b.failures.toNat = i.failures

variable {i : IdealBreaker}

/-- Agreeing machines are closed together. -/
theorem Agrees.isClosed (h : b.Agrees i) : b.isClosed = i.isClosed := by
  simp [Breaker.isClosed, IdealBreaker.isClosed, h.phase]

/-- Without a wrap, and with the timer reaching one cool-down ahead, both count a failure
alike: they open together, at the same reset moment, or both stay closed with the same count. -/
theorem Agrees.recordFailure (h : b.Agrees i) (hw : b.NoWrap) (now : Nat)
    (hnow : now + b.coolDownMs ≤ lastTick) :
    (b.recordFailure now).Agrees (i.recordFailure now) := by
  cases hb : b.phase with
  | opened r =>
    have hi : i.phase = .opened r := h.phase ▸ hb
    rw [recordFailure_open b now r hb]
    simp only [IdealBreaker.recordFailure, hi]
    exact h
  | closed =>
    have hi : i.phase = .closed := h.phase ▸ hb
    have hsucc := hw.toNat_succ hb
    have hcount := h.failures
    -- the two thresholds compare alike, since the word adds one without wrapping
    have hcmp : b.threshold < b.failures + 1 ↔ i.threshold < i.failures + 1 := by
      rw [UInt32.lt_iff_toNat_lt, hsucc, h.threshold, h.failures]
    simp only [Breaker.recordFailure, IdealBreaker.recordFailure, hb, hi]
    by_cases hopen : i.threshold < i.failures + 1
    · rw [if_pos (hcmp.2 hopen), if_pos hopen]
      exact ⟨h.threshold, h.coolDown, by rw [resetDeadline_of_le hnow, h.coolDown],
        by simp only; omega⟩
    · rw [if_neg (mt hcmp.1 hopen), if_neg hopen]
      exact ⟨h.threshold, h.coolDown, rfl, by simp only; omega⟩

/-- Settling at the same moment keeps the two machines agreeing. -/
theorem Agrees.settle (h : b.Agrees i) (now : Nat) : (b.settle now).Agrees (i.settle now) := by
  cases hb : b.phase with
  | closed =>
    have hi : i.phase = .closed := h.phase ▸ hb
    simp only [Breaker.settle, IdealBreaker.settle, hb, hi]
    exact h
  | opened r =>
    have hi : i.phase = .opened r := h.phase ▸ hb
    simp only [Breaker.settle, IdealBreaker.settle, hb, hi]
    split
    · exact ⟨h.threshold, h.coolDown, rfl, by simp⟩
    · exact h

/-- One operation whose moment the timer reaches one cool-down ahead gives the same answer and
keeps the two agreeing. -/
theorem Agrees.perform (h : b.Agrees i) (hw : b.NoWrap) (now : Nat)
    (hnow : now + b.coolDownMs ≤ lastTick) (op : Op) :
    (b.perform now op).1 = (i.perform now op).1 ∧
      (b.perform now op).2.1.Agrees (i.perform now op).2.1 ∧
      (b.perform now op).2.2 = (i.perform now op).2.2 := by
  cases op with
  | response status =>
    refine ⟨rfl, ?_, rfl⟩
    simp only [Breaker.perform, IdealBreaker.perform, recordResponse]
    split
    · exact (h.recordFailure hw now hnow).settle now
    · exact h.settle now
  | failure => exact ⟨rfl, (h.recordFailure hw now hnow).settle now, rfl⟩
  | allow =>
    refine ⟨?_, h.settle now, rfl⟩
    simp only [Breaker.perform, IdealBreaker.perform, allows, h.isClosed]
  | sleep ms => exact ⟨rfl, h.settle (now + ms), rfl⟩

/-- Along a run without a wrap, that ends one cool-down before the timer's last tick, the two
report alike and end agreeing. -/
theorem Agrees.reports (h : b.Agrees i) (hw : b.NoWrap) (now : Nat) (ops : List Op)
    (hrange : now + Op.elapsed ops + b.coolDownMs ≤ lastTick) :
    b.reports now ops = i.reports now ops ∧
      (b.after now ops).1.Agrees (i.after now ops).1 ∧
      (b.after now ops).2 = (i.after now ops).2 := by
  induction ops generalizing b i now with
  | nil => exact ⟨rfl, h, rfl⟩
  | cons op ops ih =>
    simp only [Op.elapsed] at hrange
    obtain ⟨hans, hnext, hnow⟩ := h.perform hw now (by omega) op
    -- the rest of the run starts one wait later, with the same cool-down
    have hcool : (b.perform now op).2.1.coolDownMs = b.coolDownMs :=
      congrArg Prod.snd (settings_perform b now op)
    have hrest : (b.perform now op).2.2 + Op.elapsed ops + (b.perform now op).2.1.coolDownMs ≤
        lastTick := by
      rw [moment_perform, hcool]
      omega
    obtain ⟨hrep, hend, hmoment⟩ := ih hnext (hw.perform now op) _ hrest
    refine ⟨?_, ?_, ?_⟩
    · simp only [Breaker.reports, IdealBreaker.reports]
      rw [hans, hnext.isClosed, hnext.failures, hrep, hnow]
    · rw [Breaker.after_cons, IdealBreaker.after_cons, ← hnow]
      exact hend
    · rw [Breaker.after_cons, IdealBreaker.after_cons, ← hnow]
      exact hmoment

/-- A new breaker agrees with the new contract of the same threshold and cool-down. -/
theorem agrees_new (threshold : UInt32) (coolDownSecs : Nat) :
    (new threshold coolDownSecs).Agrees (IdealBreaker.new threshold.toNat coolDownSecs) :=
  ⟨rfl, rfl, rfl, rfl⟩

end Breaker

namespace TimedBreaker

variable {tb : TimedBreaker} {b : Breaker} {now : Nat}

/-- A cell that shows a closed breaker is that breaker's cell: closed, with its count, no task
and the clock at the moment shown. -/
theorem Tracks.eq_of_closed (h : tb.Tracks b now) (hb : b.phase = .closed) :
    tb = ⟨b.threshold, b.coolDownMs, .closed, b.failures, [], now⟩ := by
  rcases h.phase with ⟨-, hs, hp⟩ | ⟨r, hr, -⟩
  · cases tb
    simp only at hs hp
    rw [← h.threshold, ← h.coolDown, ← h.failures, ← h.clock, hs, hp]
  · rw [hb] at hr
    cases hr

/-! ## Main statements -/

/-- Below the largest threshold, every run of the service's breaker, reset tasks included, that
ends one cool-down before the timer's last tick reports after each operation the phase, the
count and the answer to `allow` that the contract's machine reports; and after every such run
the cell holds no reset task while that machine is closed, and exactly one, due at its reset
moment, later than the clock and at most one cool-down ahead, while it is open. -/
theorem reports_eq_ideal (threshold : UInt32) (coolDownSecs start : Nat)
    (ht : threshold ≠ 4294967295) (ops : List Breaker.Op)
    (hrange : start + Breaker.Op.elapsed ops + coolDownSecs * 1000 ≤ Breaker.lastTick) :
    (new threshold coolDownSecs start).reports ops =
        (IdealBreaker.new threshold.toNat coolDownSecs).reports start ops ∧
      (((IdealBreaker.new threshold.toNat coolDownSecs).after start ops).1.phase = .closed ∧
          ((new threshold coolDownSecs start).after ops).state = .closed ∧
          ((new threshold coolDownSecs start).after ops).pending = [] ∨
        ∃ resetAt,
          ((IdealBreaker.new threshold.toNat coolDownSecs).after start ops).1.phase =
            .opened resetAt ∧
          ((new threshold coolDownSecs start).after ops).state = .opened ∧
          ((new threshold coolDownSecs start).after ops).pending = [resetAt] ∧
          ((IdealBreaker.new threshold.toNat coolDownSecs).after start ops).2 < resetAt ∧
          resetAt ≤ ((IdealBreaker.new threshold.toNat coolDownSecs).after start ops).2 +
            ((IdealBreaker.new threshold.toNat coolDownSecs).after start ops).1.coolDownMs) := by
  have htracks := tracks_new threshold coolDownSecs start
  obtain ⟨hrep, hend, hmoment⟩ :=
    (Breaker.agrees_new threshold coolDownSecs).reports (Breaker.noWrap_new ht coolDownSecs)
      start ops hrange
  refine ⟨(htracks.reports ops).trans hrep, ?_⟩
  -- the cell follows the breaker's phase, and the breaker the contract's machine
  have hcell := (htracks.after ops).phase
  rw [hend.phase, hmoment, hend.coolDown] at hcell
  exact hcell

/-- `reports_eq_ideal` at the default settings, threshold 5 and a cool-down of 10 seconds, over
six server errors, a refused request, the cool-down and an admitted request. -/
theorem reports_eq_ideal_defaults :
    (5 : UInt32) ≠ 4294967295 ∧
      0 + Breaker.Op.elapsed [.response 500, .response 500, .response 500, .response 500,
          .response 500, .response 500, .allow, .sleep 10000, .allow] + 10 * 1000 ≤
        Breaker.lastTick ∧
      (new 5 10 0).reports ([.response 500, .response 500, .response 500, .response 500,
          .response 500, .response 500, .allow, .sleep 10000, .allow]) =
        (IdealBreaker.new (5 : UInt32).toNat 10).reports 0 [.response 500, .response 500,
          .response 500, .response 500, .response 500, .response 500, .allow, .sleep 10000,
          .allow] :=
  ⟨by decide, by decide, (reports_eq_ideal 5 10 0 (by decide) _ (by decide)).1⟩

/-- Past the timer's range the contract fails: with threshold zero and a cool-down of
18446744073709551615 seconds, a failure opens both, but the clock cannot count the service's
reset, which the runtime puts thirty years ahead. Thirty years on the service has closed again
and admits a request, while the contract's machine is still open and refuses it. -/
theorem reports_ne_ideal_far_future :
    (new 0 18446744073709551615 0).reports [.failure, .sleep 946080000000, .allow] =
        [⟨false, 1, none⟩, ⟨true, 0, none⟩, ⟨true, 0, some true⟩] ∧
      (IdealBreaker.new (0 : UInt32).toNat 18446744073709551615).reports 0
          [.failure, .sleep 946080000000, .allow] =
        [⟨false, 1, none⟩, ⟨false, 1, none⟩, ⟨false, 1, some false⟩] :=
  ⟨by decide, by decide⟩

/-- At the largest threshold the contract fails: after 4294967295 failures both count the
largest word, and the next failure opens the contract's machine while the service's count
wraps to zero and its breaker stays closed. -/
theorem reports_ne_ideal_at_max :
    (new 4294967295 10 0).reports (List.replicate 4294967296 .failure) ≠
      (IdealBreaker.new 4294967295 10).reports 0 (List.replicate 4294967296 .failure) := by
  rw [(tracks_new 4294967295 10 0).reports, show 4294967296 = 4294967295 + 1 from rfl,
    List.replicate_succ', Breaker.reports_append, IdealBreaker.reports_append,
    Breaker.after_replicate_failure rfl (by decide), IdealBreaker.after_replicate_failure rfl
      (by decide)]
  intro h
  have hlen : (Breaker.reports (Breaker.new 4294967295 10) 0
      (List.replicate 4294967295 .failure)).length =
      (IdealBreaker.reports (IdealBreaker.new 4294967295 10) 0
        (List.replicate 4294967295 .failure)).length := by
    rw [Breaker.length_reports, IdealBreaker.length_reports]
  have hlast := (List.append_inj h hlen).2
  -- the service reports closed with count zero, the contract's machine open with 2 ^ 32
  change ([⟨true, 0, none⟩] : List Breaker.Report) = [⟨false, 4294967296, none⟩] at hlast
  cases hlast

/-- Below the largest threshold the count never wraps: over every run from a new breaker the
count stays within the threshold plus one, and a failure counted while closed adds exactly one
to it; from a new breaker the first `threshold` failures leave it closed, and the next one
opens it. -/
theorem failures_no_wrap (threshold : UInt32) (coolDownSecs start : Nat)
    (ht : threshold ≠ 4294967295) :
    (∀ ops : List Breaker.Op,
      ((new threshold coolDownSecs start).after ops).failures.toNat ≤ threshold.toNat + 1 ∧
        (((new threshold coolDownSecs start).after ops).state = .closed →
          ((new threshold coolDownSecs start).after ops).recordFailure.failures.toNat =
            ((new threshold coolDownSecs start).after ops).failures.toNat + 1)) ∧
      ((new threshold coolDownSecs start).after
          (List.replicate threshold.toNat .failure)).state = .closed ∧
      ((new threshold coolDownSecs start).after
          (List.replicate threshold.toNat .failure)).recordFailure.state = .opened := by
  have hw := Breaker.noWrap_new ht coolDownSecs
  refine ⟨fun ops => ?_, ?_⟩
  · have htr := (tracks_new threshold coolDownSecs start).after ops
    have hnw := hw.after start ops
    have hwithin := hnw.within
    rw [Breaker.threshold_after] at hwithin
    refine ⟨by rw [htr.failures]; exact hwithin, fun hclosed => ?_⟩
    -- a closed cell shows a closed breaker, whose count is within the threshold
    have hb : ((Breaker.new threshold coolDownSecs).after start ops).1.phase = .closed := by
      rcases htr.phase with ⟨hb, -⟩ | ⟨r, -, hs, -⟩
      · exact hb
      · rw [hclosed] at hs
        cases hs
    simp only [recordFailure, hclosed]
    split <;> simp only [scheduleReset] <;> rw [htr.failures, hnw.toNat_succ hb]
  · have hrun := Breaker.after_replicate_failure (b := Breaker.new threshold coolDownSecs) rfl
      (n := threshold.toNat) (by simp [Breaker.new]) start
    have htr := (tracks_new threshold coolDownSecs start).after
      (List.replicate threshold.toNat .failure)
    rw [hrun] at htr
    rw [htr.eq_of_closed rfl]
    refine ⟨rfl, ?_⟩
    have hcount : (0 + threshold.toNat).toUInt32 = threshold := by simp
    have hopen : threshold < threshold + 1 := by
      rw [UInt32.lt_iff_toNat_lt, Breaker.toNat_failures_succ (Breaker.toNat_lt_of_ne_max ht)]
      omega
    simp [recordFailure, Breaker.new, hopen, scheduleReset]

/-- `failures_no_wrap` at the default threshold 5 and a cool-down of 10 seconds. -/
theorem failures_no_wrap_defaults :
    (5 : UInt32) ≠ 4294967295 ∧
      ((new 5 10 0).after (List.replicate (5 : UInt32).toNat .failure)).state = .closed ∧
      ((new 5 10 0).after (List.replicate (5 : UInt32).toNat .failure)).recordFailure.state =
        .opened :=
  ⟨by decide, (failures_no_wrap 5 10 0 (by decide)).2⟩

/-- At the largest threshold the count does go past the largest word: 4294967296 failures
bring a new breaker back to itself, closed with count zero, never having opened. -/
theorem failures_wrap_at_max :
    (new 4294967295 10 0).after (List.replicate 4294967296 .failure) = new 4294967295 10 0 := by
  -- the breaker counts up to the largest word, and the last failure takes it to zero
  have hrun : (Breaker.new 4294967295 10).after 0 (List.replicate 4294967296 .failure) =
      (Breaker.new 4294967295 10, 0) := by
    rw [show 4294967296 = 4294967295 + 1 from rfl, List.replicate_succ', Breaker.after_append,
      Breaker.after_replicate_failure (b := Breaker.new 4294967295 10) rfl (by decide)]
    show ((((⟨4294967295, 10000, .closed, 4294967295⟩ : Breaker).recordFailure 0).settle 0), 0) = _
    rw [Breaker.recordFailure_wrap rfl rfl 0]
    rfl
  have htr := (tracks_new 4294967295 10 0).after (List.replicate 4294967296 .failure)
  rw [hrun] at htr
  rw [htr.eq_of_closed rfl]
  rfl

end TimedBreaker

end ApiGateway
