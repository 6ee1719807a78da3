namespace BandCanvas

structure RedrawTimer where
  delay : Nat
  deadline : Option Nat
  deriving DecidableEq, Repr

namespace RedrawTimer

def idle (delay : Nat) : RedrawTimer :=
  ⟨delay, none⟩

def isArmed (t : RedrawTimer) : Bool :=
  t.deadline.isSome

def arm (now : Nat) (t : RedrawTimer) : RedrawTimer :=
  { t with deadline := some (now + t.delay) }

def cancel (t : RedrawTimer) : RedrawTimer :=
  { t with deadline := none }

def isDue (now : Nat) (t : RedrawTimer) : Bool :=
  t.deadline.any (· ≤ now)

/-- Fires at most once for an arming. -/
def due (now : Nat) (t : RedrawTimer) : Bool × RedrawTimer :=
  if t.isDue now then (true, t.cancel) else (false, t)

end RedrawTimer

end BandCanvas
