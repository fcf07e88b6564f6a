/-!
# The request clock

Requests are counted per clock second. The clock holds a 64-bit count of seconds that
is set or moved forward by hand; moving forward wraps around at 2^64, as 64-bit counters
do.

Main statements:
* `advance_toNat`: advancing adds the seconds modulo 2^64.
-/

namespace ApiGateway

/-- A clock showing whole seconds as a 64-bit count. -/
structure Clock where
  /-- The current second. -/
  seconds : UInt64
  deriving DecidableEq, Repr

namespace Clock

/-- A clock showing the given second, taken modulo 2^64. -/
def ofSeconds (secs : Nat) : Clock := ⟨secs.toUInt64⟩

/-- The current second as a number. -/
def now (c : Clock) : Nat := c.seconds.toNat

/-- Moves the clock forward, wrapping around at 2^64. -/
def advance (c : Clock) (secs : Nat) : Clock := ⟨c.seconds + secs.toUInt64⟩

/-- Sets the clock. -/
def set (_ : Clock) (secs : Nat) : Clock := Clock.ofSeconds secs

/-- Advancing adds the seconds modulo 2^64. -/
theorem advance_toNat (c : Clock) (secs : Nat) :
    (c.advance secs).now = (c.now + secs) % UInt64.size := by
  simp [advance, now, UInt64.toNat_add, Nat.add_mod]

end Clock

end ApiGateway
