/-!
A clock of whole milliseconds that is moved by hand. It counts in 64 bits: an advance past
the end starts again at zero, while setting the clock never moves it back.
-/

namespace Breakwater

/-- A clock, by its present reading. -/
structure Clock where
  now : Nat
  deriving DecidableEq, Repr, Inhabited

namespace Clock

/-- One more than the largest reading. -/
def period : Nat := 0x10000000000000000

def advance (clock : Clock) (millis : Nat) : Clock := ⟨(clock.now + millis) % period⟩

def set (clock : Clock) (millis : Nat) : Clock := ⟨max clock.now millis⟩

theorem now_advance {clock : Clock} {millis : Nat} (fits : clock.now + millis < period)
    : (clock.advance millis).now = clock.now + millis :=
  Nat.mod_eq_of_lt fits

theorem now_le_set (clock : Clock) (millis : Nat) : clock.now ≤ (clock.set millis).now :=
  Nat.le_max_left _ _

end Clock

end Breakwater
