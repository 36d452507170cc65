/-!
Timers that come again and again. Times are in milliseconds.
-/

namespace AlarmKeypad

/-- A tick that comes later than this moves all that follow it. -/
def tickTolerance : Nat := 5

/-- When the tick after one that was due at `due` and comes now is due. -/
def nextTick (interval due now : Nat) : Nat :=
  if due + tickTolerance < now then now + interval else due + interval

theorem lt_nextTick {interval : Nat} (due now : Nat) (h : 0 < interval) :
    due < nextTick interval due now := by
  unfold nextTick
  split <;> omega

end AlarmKeypad
