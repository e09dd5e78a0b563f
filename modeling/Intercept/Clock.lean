/-!
# The clock

Time is counted in milliseconds from a moment of no importance. A deadline that the clock cannot
count to is replaced by one that is far away.
-/

namespace Intercept.Clock

/-- The last moment that the clock can count to: its seconds have 63 bits. -/
def lastMoment : Nat := 9223372036854775807999

/-- Thirty years. -/
def farFuture : Nat := 946080000000

def deadlineAfter (now millis : Nat) : Nat :=
  if now + millis ≤ lastMoment then now + millis else now + farFuture

theorem deadlineAfter_of_le {now millis : Nat} (h : now + millis ≤ lastMoment) :
    deadlineAfter now millis = now + millis := by
  rw [deadlineAfter, if_pos h]

theorem lt_deadlineAfter (now : Nat) {millis : Nat} (some : 0 < millis) :
    now < deadlineAfter now millis := by
  unfold deadlineAfter farFuture
  split <;> omega

theorem le_deadlineAfter (now millis : Nat) : now ≤ deadlineAfter now millis := by
  unfold deadlineAfter
  split <;> omega

end Intercept.Clock
