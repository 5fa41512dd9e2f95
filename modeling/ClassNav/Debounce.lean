/-!
A timer that restarts on every event and fires once the events have paused for the delay. The clock
is the caller's, in any unit.
-/

namespace ClassNav

structure Debouncer where
  delay : Nat
  deadline : Option Nat
  deriving DecidableEq, Repr

namespace Debouncer

def idle (delay : Nat) : Debouncer := ⟨delay, none⟩

def isPending (d : Debouncer) : Bool := d.deadline.isSome

/-- Restart the delay. -/
def trigger (d : Debouncer) (now : Nat) : Debouncer := { d with deadline := some (now + d.delay) }

/-- Whether the timer fires now. -/
def due (d : Debouncer) (now : Nat) : Bool := d.deadline.any fun deadline => decide (deadline ≤ now)

/-- After firing the timer is idle again. -/
def poll (d : Debouncer) (now : Nat) : Bool × Debouncer :=
  if d.due now then (true, { d with deadline := none }) else (false, d)

/-- Time left until the timer fires. -/
def remaining (d : Debouncer) (now : Nat) : Option Nat := d.deadline.map (· - now)

end Debouncer

end ClassNav
