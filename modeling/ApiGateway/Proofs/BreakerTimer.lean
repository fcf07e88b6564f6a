import Mathlib
import ApiGateway.Traffic.TimedBreaker

/-!
# The reset tasks follow the breaker's reset moment

The breaker with its reset tasks, and `Breaker`, which keeps the moment of the reset in its
phase, show the same after every operation of every run: the phase, the failure count and the
answer to `allow`. Along the way the tasks stay in step with the phase: a closed breaker has
no pending task, and an open one has exactly one, due at the moment `Breaker` keeps, later
than the clock and at most one cool-down ahead of it. So no second task is ever spawned, and
no task outlives its open period to close a later one. This holds for every threshold: both
count in the same 32-bit word.
-/

namespace ApiGateway

namespace TimedBreaker

/-- The breaker with its tasks shows `b` at moment `now`: settings, count and clock agree, a
closed breaker has no pending task, and an open one has exactly the task of `b`'s reset, not
yet due and at most one cool-down ahead. -/
structure Tracks (tb : TimedBreaker) (b : Breaker) (now : Nat) : Prop where
  threshold : tb.threshold = b.threshold
  coolDown : tb.coolDownMs = b.coolDownMs
  failures : tb.failures = b.failures
  clock : tb.clock = now
  phase : (b.phase = .closed ∧ tb.state = .closed ∧ tb.pending = []) ∨
    ∃ resetAt, b.phase = .opened resetAt ∧ tb.state = .opened ∧ tb.pending = [resetAt] ∧
      now < resetAt ∧ resetAt ≤ now + b.coolDownMs

variable {tb : TimedBreaker} {b : Breaker} {now : Nat}

/-- With no task pending, running what is due changes nothing. -/
theorem runDue_of_pending_nil (t : TimedBreaker) (h : t.pending = []) : t.runDue = t := by
  cases t
  simp_all [runDue]

/-- With one task pending, running what is due either closes the cell and drops the task or
changes nothing. -/
theorem runDue_of_pending_single (t : TimedBreaker) {d : Nat} (h : t.pending = [d]) :
    t.runDue =
      if d ≤ t.clock then { t with state := .closed, failures := 0, pending := [] } else t := by
  cases t with
  | mk threshold coolDownMs state failures pending clock =>
    simp only at h
    subst h
    by_cases hd : d ≤ clock
    · simp [runDue, hd, reset]
    · simp [runDue, hd, Nat.lt_of_not_le hd]

/-- The cell and the machine it tracks are closed together. -/
theorem Tracks.isClosed (h : tb.Tracks b now) : tb.isClosed = b.isClosed := by
  rcases h.phase with ⟨hb, ht, -⟩ | ⟨r, hb, ht, -⟩
  · simp [TimedBreaker.isClosed, Breaker.isClosed, hb, ht]
  · simp [TimedBreaker.isClosed, Breaker.isClosed, hb, ht]

/-- Between operations nothing is due. -/
theorem Tracks.runDue (h : tb.Tracks b now) : tb.runDue = tb := by
  rcases h.phase with ⟨-, -, hp⟩ | ⟨r, -, -, hp, hlt, -⟩
  · exact runDue_of_pending_nil tb hp
  · rw [runDue_of_pending_single tb hp, if_neg (by rw [h.clock]; omega)]

/-- While tracked, the machine has nothing to settle: an open phase ends only after now. -/
theorem Tracks.settle (h : tb.Tracks b now) : b.settle now = b := by
  rcases h.phase with ⟨hb, -⟩ | ⟨r, hb, -, -, hlt, -⟩
  · simp [Breaker.settle, hb]
  · simp [Breaker.settle, hb, Nat.not_le.2 hlt]

/-- A failure keeps the two in step: while closed both count it, and past the threshold both
open with the same reset moment, the timer's deadline for one cool-down; while open neither
changes. -/
theorem Tracks.recordFailure (h : tb.Tracks b now) :
    tb.recordFailure.runDue.Tracks ((b.recordFailure now).settle now) now := by
  rcases h.phase with ⟨hb, ht, hp⟩ | ⟨r, hb, ht, hp, hlt, hle⟩
  · by_cases hn : b.threshold < b.failures + 1
    · have ht' : tb.recordFailure = { tb with
          state := .opened, failures := b.failures + 1,
          pending := [Breaker.resetDeadline now b.coolDownMs] } := by
        simp [TimedBreaker.recordFailure, ht, h.threshold, h.failures, hn, scheduleReset, hp,
          h.clock, h.coolDown]
      have hb' : b.recordFailure now = { b with
          phase := .opened (Breaker.resetDeadline now b.coolDownMs), failures := b.failures + 1 } := by
        simp [Breaker.recordFailure, hb, hn]
      rw [ht', hb', runDue_of_pending_single _ rfl]
      by_cases hz : Breaker.resetDeadline now b.coolDownMs ≤ now
      · -- a deadline already reached (a cool-down of zero, or the timer's last tick passed):
        -- the task runs at once and both close again
        have hz' : Breaker.resetDeadline now b.coolDownMs ≤ tb.clock := h.clock ▸ hz
        simp only [hz', if_true, Breaker.settle, hz]
        exact ⟨h.threshold, h.coolDown, rfl, h.clock, .inl ⟨rfl, rfl, rfl⟩⟩
      · have hz' : ¬Breaker.resetDeadline now b.coolDownMs ≤ tb.clock := h.clock ▸ hz
        simp only [hz', if_false, Breaker.settle, hz]
        exact ⟨h.threshold, h.coolDown, rfl, h.clock,
          .inr ⟨_, rfl, rfl, rfl, Nat.lt_of_not_le hz, Breaker.resetDeadline_le now _⟩⟩
    · have ht' : tb.recordFailure = { tb with failures := b.failures + 1 } := by
        simp [TimedBreaker.recordFailure, ht, h.threshold, h.failures, hn]
      have hb' : b.recordFailure now = { b with failures := b.failures + 1 } := by
        simp [Breaker.recordFailure, hb, hn]
      rw [ht', hb', runDue_of_pending_nil { tb with failures := b.failures + 1 } hp]
      simp only [Breaker.settle, hb]
      exact ⟨h.threshold, h.coolDown, rfl, h.clock, .inl ⟨rfl, ht, hp⟩⟩
  · have ht' : tb.recordFailure = tb := by simp [TimedBreaker.recordFailure, ht]
    rw [ht', Breaker.recordFailure_open b now r hb, h.runDue, h.settle]
    exact h

/-- Sleeping keeps the two in step: a reset whose moment the sleep reaches closes both, and
any other waits on. -/
theorem Tracks.sleep (h : tb.Tracks b now) (ms : Nat) :
    ({ tb with clock := tb.clock + ms }.runDue).Tracks (b.settle (now + ms)) (now + ms) := by
  rcases h.phase with ⟨hb, ht, hp⟩ | ⟨r, hb, ht, hp, hlt, hle⟩
  · rw [runDue_of_pending_nil { tb with clock := tb.clock + ms } hp]
    simp only [Breaker.settle, hb]
    exact ⟨h.threshold, h.coolDown, h.failures, by simp [h.clock], .inl ⟨hb, ht, hp⟩⟩
  · rw [runDue_of_pending_single { tb with clock := tb.clock + ms } hp]
    by_cases hr : r ≤ now + ms
    · have hr' : r ≤ tb.clock + ms := h.clock ▸ hr
      simp only [hr', if_true, Breaker.settle, hb, hr]
      exact ⟨h.threshold, h.coolDown, rfl, by simp [h.clock], .inl ⟨rfl, rfl, rfl⟩⟩
    · have hr' : ¬r ≤ tb.clock + ms := h.clock ▸ hr
      simp only [hr', if_false, Breaker.settle, hb, hr]
      exact ⟨h.threshold, h.coolDown, h.failures, by simp [h.clock],
        .inr ⟨r, hb, ht, hp, Nat.lt_of_not_le hr, by omega⟩⟩

/-- One operation gives the same answer and keeps the two in step. -/
theorem Tracks.perform (h : tb.Tracks b now) (op : Breaker.Op) :
    (tb.perform op).1 = (b.perform now op).1 ∧
      (tb.perform op).2.Tracks (b.perform now op).2.1 (b.perform now op).2.2 := by
  cases op with
  | response status =>
    cases hs : Breaker.isFailureStatus status with
    | true =>
      simp only [TimedBreaker.perform, Breaker.perform, TimedBreaker.recordResponse,
        Breaker.recordResponse, hs, if_true]
      exact ⟨trivial, h.recordFailure⟩
    | false =>
      simp only [TimedBreaker.perform, Breaker.perform, TimedBreaker.recordResponse,
        Breaker.recordResponse, hs, Bool.false_eq_true, if_false]
      rw [h.runDue, h.settle]
      exact ⟨trivial, h⟩
  | failure => exact ⟨rfl, h.recordFailure⟩
  | allow =>
    simp only [TimedBreaker.perform, Breaker.perform, Breaker.allows]
    rw [h.runDue, h.settle, h.isClosed]
    exact ⟨rfl, h⟩
  | sleep ms => exact ⟨rfl, h.sleep ms⟩

/-- Two breakers in step report the same along any run. -/
theorem Tracks.reports (h : tb.Tracks b now) (ops : List Breaker.Op) :
    tb.reports ops = b.reports now ops := by
  induction ops generalizing tb b now with
  | nil => rfl
  | cons op ops ih =>
    obtain ⟨hans, hnext⟩ := h.perform op
    simp only [TimedBreaker.reports, Breaker.reports]
    rw [hans, hnext.isClosed, hnext.failures, ih hnext]

/-- Two breakers in step stay in step along any run. -/
theorem Tracks.after (h : tb.Tracks b now) (ops : List Breaker.Op) :
    (tb.after ops).Tracks (b.after now ops).1 (b.after now ops).2 := by
  induction ops generalizing tb b now with
  | nil => exact h
  | cons op ops ih => exact ih (h.perform op).2

/-- A new cell with no task shows a new breaker at its starting moment. -/
theorem tracks_new (threshold : UInt32) (coolDownSecs start : Nat) :
    (new threshold coolDownSecs start).Tracks (Breaker.new threshold coolDownSecs) start :=
  ⟨rfl, rfl, rfl, rfl, .inl ⟨rfl, rfl, rfl⟩⟩

/-- From a new breaker, every run reports the phase, the count and the answers that
`Breaker` reports, and ends with the tasks in step with `Breaker`'s reset moment. -/
theorem reports_eq_breaker (threshold : UInt32) (coolDownSecs start : Nat) (ops : List Breaker.Op) :
    (new threshold coolDownSecs start).reports ops =
        (Breaker.new threshold coolDownSecs).reports start ops ∧
      ((new threshold coolDownSecs start).after ops).Tracks
        ((Breaker.new threshold coolDownSecs).after start ops).1
        ((Breaker.new threshold coolDownSecs).after start ops).2 :=
  ⟨(tracks_new threshold coolDownSecs start).reports ops,
    (tracks_new threshold coolDownSecs start).after ops⟩

end TimedBreaker

end ApiGateway
