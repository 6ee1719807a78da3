import Mathlib.Algebra.Ring.Nat

namespace BandCanvas.Word32

/-- Arithmetic with 32 bits fails where the exact result is not below this. -/
def limit : Nat := 2 ^ 32

def add? (a b : Nat) : Option Nat :=
  if a + b < limit then some (a + b) else none

def sub? (a b : Nat) : Option Nat :=
  if b ≤ a then some (a - b) else none

def mul? (a b : Nat) : Option Nat :=
  if a * b < limit then some (a * b) else none

def div? (a b : Nat) : Option Nat :=
  if 0 < b then some (a / b) else none

variable {a b c : Nat}

theorem add?_eq (h : a + b < limit) : add? a b = some (a + b) :=
  if_pos h

theorem sub?_eq (h : b ≤ a) : sub? a b = some (a - b) :=
  if_pos h

theorem mul?_eq (h : a * b < limit) : mul? a b = some (a * b) :=
  if_pos h

theorem div?_eq (h : 0 < b) : div? a b = some (a / b) :=
  if_pos h

theorem eq_of_add? (h : add? a b = some c) : c = a + b := by
  rw [add?] at h
  split at h
  · exact (Option.some.inj h).symm
  · cases h

theorem eq_of_sub? (h : sub? a b = some c) : c = a - b := by
  rw [sub?] at h
  split at h
  · exact (Option.some.inj h).symm
  · cases h

end BandCanvas.Word32
