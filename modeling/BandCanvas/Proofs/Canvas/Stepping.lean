import BandCanvas.Proofs.Canvas.Line

namespace BandCanvas

/-- One pixel along an axis, to either side. -/
structure Axis where
  x : Int
  y : Int
  straight : y = 0 ∧ x.natAbs = 1 ∨ x = 0 ∧ y.natAbs = 1

namespace Axis

variable (u : Axis)

theorem directions : u.x = 1 ∧ u.y = 0 ∨ u.x = -1 ∧ u.y = 0 ∨ u.x = 0 ∧ u.y = 1 ∨ u.x = 0 ∧ u.y = -1 := by
  have := u.straight
  omega

theorem sq_add_sq : u.x ^ 2 + u.y ^ 2 = 1 := by
  rcases u.directions with ⟨hx, hy⟩ | ⟨hx, hy⟩ | ⟨hx, hy⟩ | ⟨hx, hy⟩ <;> rw [hx, hy] <;> rfl

theorem natAbs_mul_le (n : Nat) : (u.x * n).natAbs ≤ n ∧ (u.y * n).natAbs ≤ n := by
  rw [Int.natAbs_mul, Int.natAbs_mul, Int.natAbs_natCast]
  rcases u.straight with ⟨h, h'⟩ | ⟨h, h'⟩ <;> rw [h, h'] <;> simp

end Axis

namespace Pixel

def along (p : Pixel) (u : Axis) (n : Nat) : Pixel :=
  ⟨p.x + u.x * n, p.y + u.y * n⟩

/-- How many steps along the axis take `p` next to `q`. -/
def ahead (p : Pixel) (u : Axis) (q : Pixel) : Int :=
  (q.x - p.x) * u.x + (q.y - p.y) * u.y

/-- How far `q` lies below the line through `p`, or to its right where the line is upright. -/
def aside (p : Pixel) (u : Axis) (q : Pixel) : Int :=
  if u.y = 0 then q.y - p.y else q.x - p.x

variable {p q : Pixel} {u : Axis} {n : Nat}

theorem along_zero : p.along u 0 = p := by
  simp [along]

theorem toward_add_mul {s : Int} (hs : s.natAbs = 1) (hn : 0 < n) (a : Int) : toward a (a + s * n) = s := by
  rcases Int.natAbs_eq_iff.1 hs with rfl | rfl
  · exact if_pos (by omega)
  · exact if_neg (by omega)

theorem line_along (p : Pixel) (u : Axis) (n : Nat) :
    line p (p.along u n) = (List.range (n + 1)).map (p.along u) := by
  have hx : p.distanceX (p.along u n) = u.x.natAbs * n := by
    rw [distanceX, along, add_sub_cancel_left, Int.natAbs_mul, Int.natAbs_natCast]
  have hy : p.distanceY (p.along u n) = u.y.natAbs * n := by
    rw [distanceY, along, add_sub_cancel_left, Int.natAbs_mul, Int.natAbs_natCast]
  have hdistance : p.distance (p.along u n) = n := by
    rw [distance, hx, hy]
    rcases u.straight with ⟨h, h'⟩ | ⟨h, h'⟩ <;> rw [h, h'] <;> simp
  rw [line_eq, hdistance]
  apply List.map_congr_left
  intro k hk
  rw [List.mem_range] at hk
  rcases Nat.eq_zero_or_pos n with rfl | hn
  · obtain rfl : k = 0 := by omega
    rw [onLine_zero, along_zero]
  · rw [onLine, hdistance, hx, hy]
    simp only [along]
    rcases u.straight with ⟨h, h'⟩ | ⟨h, h'⟩
    · rw [h, h', toward_add_mul h' hn, Int.natAbs_zero, Nat.one_mul, Nat.zero_mul, share_self hn, share_none]
      simp
    · rw [h, h', toward_add_mul h' hn, Int.natAbs_zero, Nat.one_mul, Nat.zero_mul, share_self hn, share_none]
      simp

theorem ahead_along : (p.along u n).ahead u q = p.ahead u q - n := by
  have hunit : u.x * u.x + u.y * u.y = 1 := by
    rw [← sq, ← sq, u.sq_add_sq]
  simp only [ahead, along]
  linear_combination (-(n : Int)) * hunit

theorem natAbs_ahead_le {r : Nat} (hx : (q.x - p.x).natAbs ≤ r) (hy : (q.y - p.y).natAbs ≤ r) :
    (p.ahead u q).natAbs ≤ r := by
  rcases u.straight with ⟨h, h'⟩ | ⟨h, h'⟩
  · rw [ahead, h, mul_zero, add_zero, Int.natAbs_mul, h', Nat.mul_one]
    exact hx
  · rw [ahead, h, mul_zero, zero_add, Int.natAbs_mul, h', Nat.mul_one]
    exact hy

theorem eq_along_iff : q = p.along u n ↔ p.ahead u q = n ∧ p.aside u q = 0 := by
  obtain ⟨px, py⟩ := p
  obtain ⟨qx, qy⟩ := q
  simp only [along, ahead, aside, Pixel.mk.injEq]
  rcases u.directions with ⟨hx, hy⟩ | ⟨hx, hy⟩ | ⟨hx, hy⟩ | ⟨hx, hy⟩ <;>
    simp only [hx, hy, Int.reduceEq, Int.reduceNeg, if_true, if_false] <;> omega

theorem mem_line_along : q ∈ line p (p.along u n) ↔ ∃ k ≤ n, q = p.along u k := by
  rw [line_along, List.mem_map]
  simp only [List.mem_range, Nat.lt_succ_iff, eq_comm]

/-- Between its ends a line covers what lies on it. -/
theorem mem_line_iff (hfirst : 0 ≤ p.ahead u q) (hlast : p.ahead u q ≤ n) :
    q ∈ line p (p.along u n) ↔ p.aside u q = 0 := by
  rw [mem_line_along]
  constructor
  · rintro ⟨k, -, hk⟩
    exact (eq_along_iff.1 hk).2
  · intro h
    exact ⟨(p.ahead u q).toNat, by omega, eq_along_iff.2 ⟨by omega, h⟩⟩

end Pixel

end BandCanvas
