import Mathlib
import BandCanvas.Canvas.Segment
import BandCanvas.Proofs.Number.SignedWord

namespace BandCanvas

/-- The share of a distance `d` that belongs to `k` of `n` steps. A half is rounded up. -/
def share (n d k : Nat) : Nat :=
  (2 * (k * d) + n) / (2 * n)

section Share

variable {n d d' k : Nat}

theorem share_zero (n d : Nat) : share n d 0 = 0 := by
  rcases Nat.eq_zero_or_pos n with rfl | hn
  · exact Nat.div_zero _
  · rw [share, Nat.zero_mul, Nat.mul_zero, Nat.zero_add]
    exact Nat.div_eq_of_lt (by omega)

theorem share_bounds (hn : 0 < n) (d k : Nat) :
    2 * (n * share n d k) ≤ 2 * (k * d) + n ∧ 2 * (k * d) < 2 * (n * share n d k) + n := by
  have hle := Nat.div_mul_le_self (2 * (k * d) + n) (2 * n)
  have hlt := Nat.lt_div_mul_add (a := 2 * (k * d) + n) (show 0 < 2 * n by omega)
  have hsame : share n d k * (2 * n) = 2 * (n * share n d k) := by ring
  rw [← share] at hle hlt
  omega

theorem share_unique {j : Nat} (hlow : 2 * (n * j) ≤ 2 * (k * d) + n)
    (hhigh : 2 * (k * d) < 2 * (n * j) + n) : share n d k = j := by
  apply Nat.div_eq_of_lt_le
  · linarith
  · linarith

theorem share_all (hn : 0 < n) (d : Nat) : share n d n = d :=
  share_unique (by omega) (by omega)

theorem share_none (n k : Nat) : share n 0 k = 0 := by
  rcases Nat.eq_zero_or_pos n with rfl | hn
  · exact Nat.div_zero _
  · exact share_unique (by omega) (by omega)

theorem share_self (hn : 0 < n) (k : Nat) : share n n k = k := by
  apply share_unique <;> rw [Nat.mul_comm k n] <;> omega

theorem share_le (hn : 0 < n) (hk : k ≤ n) : share n d k ≤ d := by
  calc share n d k ≤ share n d n := by
        apply Nat.div_le_div_right
        have := Nat.mul_le_mul_right d hk
        omega
    _ = d := share_all hn d

theorem share_succ (hn : 0 < n) (hd : d ≤ n) (k : Nat) :
    share n d (k + 1) = share n d k + if 2 * (n * share n d k) + n ≤ 2 * ((k + 1) * d) then 1 else 0 := by
  obtain ⟨hlow, hhigh⟩ := share_bounds hn d k
  have hshare : (k + 1) * d = k * d + d := Nat.succ_mul k d
  split
  next hgoes =>
    have hmore : n * (share n d k + 1) = n * share n d k + n := Nat.mul_succ ..
    exact share_unique (by omega) (by omega)
  next hstays =>
    show share n d (k + 1) = share n d k
    exact share_unique (by omega) (by omega)

theorem share_succ_cases (hn : 0 < n) (hd : d ≤ n) (k : Nat) :
    share n d (k + 1) = share n d k ∨ share n d (k + 1) = share n d k + 1 := by
  rw [share_succ hn hd]
  split
  · exact .inr rfl
  · exact .inl rfl

/-- What has been gone along two axes decides which of them the next step goes along, where every step goes along
one of them. -/
theorem share_succ_iff (hn : 0 < n) (h : d = n ∧ d' ≤ n ∨ d' = n ∧ d ≤ n) (k : Nat) :
    (2 * share n d k + 1) * d' ≤ 2 * ((share n d' k + 1) * d) ↔ share n d (k + 1) = share n d k + 1 := by
  have hshare : (k + 1) * d = k * d + d := Nat.succ_mul k d
  rcases h with ⟨rfl, hd'⟩ | ⟨rfl, hd⟩
  · obtain ⟨-, hhigh⟩ := share_bounds hn d' k
    have hleft : (2 * k + 1) * d' = 2 * (k * d') + d' := by ring
    have hright : (share d d' k + 1) * d = d * share d d' k + d := by ring
    rw [share_self hn, share_self hn, hleft, hright]
    exact iff_of_true (by omega) rfl
  · have hleft : (2 * share d' d k + 1) * d' = 2 * (d' * share d' d k) + d' := by ring
    rw [share_self hn, share_succ hn hd, hleft]
    split <;> omega

theorem ite_goes {a b : Nat} (h : b = a ∨ b = a + 1) (c s : Int) :
    (if b = a + 1 then c + s else c) = c + s * (b - a) := by
  rcases h with rfl | rfl
  · rw [if_neg (by omega), sub_self, mul_zero, add_zero]
  · rw [if_pos rfl, Nat.cast_add, add_sub_cancel_left, Nat.cast_one, mul_one]

end Share

def toward (a b : Int) : Int :=
  if a < b then 1 else -1

theorem toward_cases (a b : Int) : toward a b = 1 ∧ a < b ∨ toward a b = -1 ∧ b ≤ a := by
  rw [toward]
  split
  next h => exact .inl ⟨rfl, h⟩
  next h => exact .inr ⟨rfl, by omega⟩

theorem toward_mul (a b : Int) : toward a b * (b - a).natAbs = b - a := by
  rcases toward_cases a b with ⟨h, hlt⟩ | ⟨h, hle⟩ <;> rw [h] <;> omega

theorem toward_between {a b : Int} {i : Nat} (hi : i ≤ (b - a).natAbs) :
    min a b ≤ a + toward a b * i ∧ a + toward a b * i ≤ max a b := by
  rcases toward_cases a b with ⟨h, hlt⟩ | ⟨h, hle⟩ <;> rw [h] <;> omega

namespace Pixel

section Course

variable (p q : Pixel) {k : Nat}

def distanceX : Nat :=
  (q.x - p.x).natAbs

def distanceY : Nat :=
  (q.y - p.y).natAbs

def distance : Nat :=
  max (p.distanceX q) (p.distanceY q)

/-- Where a line stands after `k` steps. -/
def onLine (k : Nat) : Pixel :=
  ⟨p.x + toward p.x q.x * share (p.distance q) (p.distanceX q) k,
    p.y + toward p.y q.y * share (p.distance q) (p.distanceY q) k⟩

def error (k : Nat) : Int :=
  (share (p.distance q) (p.distanceY q) k + 1) * p.distanceX q -
    (share (p.distance q) (p.distanceX q) k + 1) * p.distanceY q

variable {p q}

theorem distance_cases : p.distanceX q = p.distance q ∧ p.distanceY q ≤ p.distance q ∨
    p.distanceY q = p.distance q ∧ p.distanceX q ≤ p.distance q := by
  rw [distance]
  omega

theorem onLine_zero : p.onLine q 0 = p := by
  simp only [onLine, share_zero, Nat.cast_zero, mul_zero, add_zero]

theorem onLine_distance : p.onLine q (p.distance q) = q := by
  rcases Nat.eq_zero_or_pos (p.distance q) with hzero | hpos
  · have hsame : p.x = q.x ∧ p.y = q.y := by
      simp only [distance, distanceX, distanceY] at hzero
      omega
    rw [hzero, onLine_zero]
    exact congrArg₂ Pixel.mk hsame.1 hsame.2
  · rw [onLine, share_all hpos, share_all hpos, distanceX, distanceY, toward_mul, toward_mul,
      add_sub_cancel, add_sub_cancel]

/-- Every step goes along the axis of the longer distance, so no two lead to one pixel. -/
theorem onLine_inj {i j : Nat} (hpos : 0 < p.distance q) (h : p.onLine q i = p.onLine q j) : i = j := by
  simp only [onLine, Pixel.mk.injEq] at h
  rcases distance_cases (p := p) (q := q) with ⟨hd, -⟩ | ⟨hd, -⟩
  · have hx := h.1
    rw [hd, share_self hpos, share_self hpos] at hx
    rcases toward_cases p.x q.x with ⟨ht, -⟩ | ⟨ht, -⟩ <;> rw [ht] at hx <;> omega
  · have hy := h.2
    rw [hd, share_self hpos, share_self hpos] at hy
    rcases toward_cases p.y q.y with ⟨ht, -⟩ | ⟨ht, -⟩ <;> rw [ht] at hy <;> omega

theorem onLine_ne (hk : k < p.distance q) : p.onLine q k ≠ q := by
  intro h
  have := onLine_inj (by omega) (h.trans onLine_distance.symm)
  omega

theorem error_bounds (hpos : 0 < p.distance q) :
    -(3 * p.distance q : Int) ≤ 2 * p.error q k ∧ 2 * p.error q k ≤ 3 * p.distance q := by
  obtain ⟨hlowX, hhighX⟩ := share_bounds hpos (p.distanceX q) k
  obtain ⟨hlowY, hhighY⟩ := share_bounds hpos (p.distanceY q) k
  zify at hlowX hhighX hlowY hhighY
  rw [error]
  rcases distance_cases (p := p) (q := q) with ⟨hd, hle⟩ | ⟨hd, hle⟩
  · rw [hd, share_self hpos]
    constructor <;> linarith
  · rw [hd, share_self hpos]
    constructor <;> linarith

theorem goesX_iff (hpos : 0 < p.distance q) : 2 * p.error q k ≥ -(p.distanceY q : Int) ↔
    share (p.distance q) (p.distanceX q) (k + 1) = share (p.distance q) (p.distanceX q) k + 1 := by
  rw [← share_succ_iff hpos distance_cases, error, ge_iff_le, ← Int.ofNat_le]
  push_cast
  constructor <;> intro h <;> linarith

theorem goesY_iff (hpos : 0 < p.distance q) : 2 * p.error q k ≤ p.distanceX q ↔
    share (p.distance q) (p.distanceY q) (k + 1) = share (p.distance q) (p.distanceY q) k + 1 := by
  rw [← share_succ_iff hpos distance_cases.symm, error, ← Int.ofNat_le]
  push_cast
  constructor <;> intro h <;> linarith

/-- Each step of a walk on a line is the next one of the line. -/
theorem step_onLine (hpos : 0 < p.distance q) :
    let stepX := 2 * p.error q k ≥ -(p.distanceY q : Int)
    let stepY := 2 * p.error q k ≤ p.distanceX q
    (⟨if stepX then (p.onLine q k).x + toward p.x q.x else (p.onLine q k).x,
      if stepY then (p.onLine q k).y + toward p.y q.y else (p.onLine q k).y⟩ : Pixel) = p.onLine q (k + 1) ∧
    p.error q k + (if stepX then -(p.distanceY q : Int) else 0) + (if stepY then (p.distanceX q : Int) else 0) =
      p.error q (k + 1) := by
  intro stepX stepY
  obtain ⟨hleX, hleY⟩ : p.distanceX q ≤ p.distance q ∧ p.distanceY q ≤ p.distance q :=
    ⟨le_max_left _ _, le_max_right _ _⟩
  simp only [stepX, stepY, goesX_iff hpos, goesY_iff hpos, onLine, error]
  have hX := ite_goes (share_succ_cases hpos hleX k)
  have hY := ite_goes (share_succ_cases hpos hleY k)
  have herrX := hX 0 (-(p.distanceY q : Int))
  have herrY := hY 0 (p.distanceX q : Int)
  rw [zero_add, zero_add] at herrX herrY
  constructor
  · rw [hX, hY]
    congr 1 <;> ring
  · rw [herrX, herrY]
    ring

theorem walk_onLine (hk : k ≤ p.distance q) {fuel : Nat} (hfuel : p.distance q - k ≤ fuel) :
    walk q (p.distanceX q) (-(p.distanceY q)) (toward p.x q.x) (toward p.y q.y) fuel (p.error q k)
      (p.onLine q k) = (List.range' k (p.distance q - k + 1)).map (p.onLine q) := by
  induction fuel generalizing k with
  | zero =>
    obtain rfl : k = p.distance q := by omega
    rw [walk, Nat.sub_self]
    rfl
  | succ fuel ih =>
    rcases Nat.lt_or_eq_of_le hk with hlt | rfl
    · have hpos : 0 < p.distance q := by omega
      obtain ⟨hnext, herror⟩ := step_onLine (k := k) hpos
      have hrange : p.distance q - k = p.distance q - (k + 1) + 1 := by omega
      rw [walk, if_neg (onLine_ne hlt)]
      simp only [hnext, herror]
      rw [ih (by omega) (by omega), hrange]
      rfl
    · rw [walk, if_pos onLine_distance, Nat.sub_self, List.range'_one, List.map_singleton]

theorem line_eq (p q : Pixel) : line p q = (List.range (p.distance q + 1)).map (p.onLine q) := by
  have hfuel : p.distance q - 0 ≤ p.distanceX q + p.distanceY q := by
    rw [distance]
    omega
  have hwalk := walk_onLine (Nat.zero_le _) hfuel
  have herror : p.error q 0 = p.distanceX q - p.distanceY q := by
    simp only [error, share_zero, Nat.cast_zero, zero_add, one_mul]
  rw [herror, onLine_zero, Nat.sub_zero, ← List.range_eq_range'] at hwalk
  exact hwalk

end Course

section Words

def advance32? (goes : Prop) [Decidable goes] (err change place direction : Int) : Option (Int × Int) :=
  if goes then do
    let err ← SignedWord.fit? 32 (err + change)
    let place ← SignedWord.fit? 32 (place + direction)
    pure (err, place)
  else some (err, place)

/-- A walk with words of 32 bits. It fails if it has not come to `stop` after as many pixels as it is given. -/
def walk32? (stop : Pixel) (dx dy sx sy : Int) : (pixels : Nat) → Int → Pixel → Option (List Pixel)
  | 0, _, _ => none
  | pixels + 1, err, p =>
    if p = stop then some [p]
    else do
      let twice ← SignedWord.fit? 32 (2 * err)
      let (err, x) ← advance32? (twice ≥ dy) err dy p.x sx
      let (err, y) ← advance32? (twice ≤ dx) err dx p.y sy
      let rest ← walk32? stop dx dy sx sy pixels err ⟨x, y⟩
      pure (p :: rest)

def line32? (pixels : Nat) (p q : Pixel) : Option (List Pixel) := do
  let width ← SignedWord.fit? 32 (q.x - p.x)
  let dx ← SignedWord.fit? 32 width.natAbs
  let height ← SignedWord.fit? 32 (q.y - p.y)
  let height ← SignedWord.fit? 32 height.natAbs
  let dy ← SignedWord.fit? 32 (-height)
  let err ← SignedWord.fit? 32 (dx + dy)
  walk32? q dx dy (toward p.x q.x) (toward p.y q.y) pixels err p

def Within (p : Pixel) (bound : Nat) : Prop :=
  p.x.natAbs ≤ bound ∧ p.y.natAbs ≤ bound

instance (p : Pixel) (bound : Nat) : Decidable (p.Within bound) :=
  inferInstanceAs (Decidable (_ ∧ _))

variable {p q : Pixel} {k : Nat}

theorem advance32?_eq (goes : Prop) [Decidable goes] (err change place direction : Int)
    (herr : goes → SignedWord.Fits 32 (err + change)) (hplace : goes → SignedWord.Fits 32 (place + direction)) :
    advance32? goes err change place direction =
      some (err + (if goes then change else 0), if goes then place + direction else place) := by
  rw [advance32?]
  split
  next h =>
    rw [SignedWord.fit?_eq (herr h), SignedWord.fit?_eq (hplace h)]
    rfl
  next => rw [Int.add_zero]

theorem distance_le (hp : p.Within (2 ^ 28)) (hq : q.Within (2 ^ 28)) : p.distance q ≤ 2 ^ 29 := by
  obtain ⟨hpx, hpy⟩ := hp
  obtain ⟨hqx, hqy⟩ := hq
  rw [distance, distanceX, distanceY]
  omega

theorem onLine_between (hk : k ≤ p.distance q) :
    (min p.x q.x ≤ (p.onLine q k).x ∧ (p.onLine q k).x ≤ max p.x q.x) ∧
      min p.y q.y ≤ (p.onLine q k).y ∧ (p.onLine q k).y ≤ max p.y q.y := by
  rcases Nat.eq_zero_or_pos (p.distance q) with hzero | hpos
  · obtain rfl : k = 0 := by omega
    rw [onLine_zero]
    omega
  · exact ⟨toward_between (share_le hpos hk), toward_between (share_le hpos hk)⟩

theorem onLine_fits (hp : p.Within (2 ^ 28)) (hq : q.Within (2 ^ 28)) (hk : k ≤ p.distance q) :
    SignedWord.Fits 32 (p.onLine q k).x ∧ SignedWord.Fits 32 (p.onLine q k).y := by
  obtain ⟨hpx, hpy⟩ := hp
  obtain ⟨hqx, hqy⟩ := hq
  obtain ⟨⟨hlowX, hhighX⟩, hlowY, hhighY⟩ := onLine_between hk
  exact ⟨SignedWord.fits_32 (by omega) (by omega), SignedWord.fits_32 (by omega) (by omega)⟩

theorem walk32?_onLine (hp : p.Within (2 ^ 28)) (hq : q.Within (2 ^ 28)) (hk : k ≤ p.distance q) {pixels : Nat}
    (hpixels : p.distance q - k < pixels) :
    walk32? q (p.distanceX q) (-(p.distanceY q)) (toward p.x q.x) (toward p.y q.y) pixels (p.error q k)
      (p.onLine q k) = some ((List.range' k (p.distance q - k + 1)).map (p.onLine q)) := by
  induction pixels generalizing k with
  | zero => omega
  | succ pixels ih =>
    rcases Nat.lt_or_eq_of_le hk with hlt | rfl
    · have hpos : 0 < p.distance q := by omega
      have hrange : p.distance q - k = p.distance q - (k + 1) + 1 := by omega
      have hrest := ih (k := k + 1) (by omega) (by omega)
      obtain ⟨hnext, herror⟩ := step_onLine (k := k) hpos
      obtain ⟨hfitsX, hfitsY⟩ := onLine_fits hp hq (show k + 1 ≤ p.distance q from hlt)
      obtain ⟨hlow, hhigh⟩ := error_bounds (k := k) hpos
      have hbound := distance_le hp hq
      have hleX : p.distanceX q ≤ p.distance q := le_max_left _ _
      have hleY : p.distanceY q ≤ p.distance q := le_max_right _ _
      rw [← hnext] at hfitsX hfitsY
      have htwice : SignedWord.fit? 32 (2 * p.error q k) = some (2 * p.error q k) :=
        SignedWord.fit?_eq (SignedWord.fits_32 (by omega) (by omega))
      have hacross := advance32?_eq (2 * p.error q k ≥ -(p.distanceY q : Int)) (p.error q k)
        (-(p.distanceY q : Int)) (p.onLine q k).x (toward p.x q.x)
        (fun _ => SignedWord.fits_32 (by omega) (by omega)) fun h => by rwa [if_pos h] at hfitsX
      have hdown := advance32?_eq (2 * p.error q k ≤ p.distanceX q)
        (p.error q k + if 2 * p.error q k ≥ -(p.distanceY q : Int) then -(p.distanceY q : Int) else 0)
        (p.distanceX q) (p.onLine q k).y (toward p.y q.y)
        (fun _ => SignedWord.fits_32 (by split <;> omega) (by split <;> omega))
        fun h => by rwa [if_pos h] at hfitsY
      rw [walk32?, if_neg (onLine_ne hlt)]
      simp only [htwice, Option.bind_eq_bind, Option.bind_some, hacross, hdown, hnext, herror, hrest]
      rw [hrange]
      rfl
    · rw [walk32?, if_pos onLine_distance, Nat.sub_self, List.range'_one, List.map_singleton]

theorem line32?_eq (hp : p.Within (2 ^ 28)) (hq : q.Within (2 ^ 28)) {pixels : Nat}
    (hpixels : p.distance q < pixels) : line32? pixels p q = some (line p q) := by
  have hwalk := walk32?_onLine hp hq (Nat.zero_le _) (show p.distance q - 0 < pixels from hpixels)
  have herror : p.error q 0 = p.distanceX q + -(p.distanceY q : Int) := by
    simp only [error, share_zero, Nat.cast_zero, zero_add, one_mul, sub_eq_add_neg]
  rw [herror, onLine_zero, Nat.sub_zero, ← List.range_eq_range', ← line_eq] at hwalk
  have hbound := distance_le hp hq
  have hx : p.distanceX q = (q.x - p.x).natAbs := rfl
  have hy : p.distanceY q = (q.y - p.y).natAbs := rfl
  obtain ⟨hleX, hleY⟩ : p.distanceX q ≤ p.distance q ∧ p.distanceY q ≤ p.distance q :=
    ⟨le_max_left _ _, le_max_right _ _⟩
  have hfits (i : Int) (hi : i.natAbs ≤ 2 ^ 30) : SignedWord.Fits 32 i :=
    SignedWord.fits_32 (by omega) (by omega)
  rw [line32?, SignedWord.fit?_bind (hfits (q.x - p.x) (by omega)), ← hx,
    SignedWord.fit?_bind (hfits (p.distanceX q) (by omega)),
    SignedWord.fit?_bind (hfits (q.y - p.y) (by omega)), ← hy,
    SignedWord.fit?_bind (hfits (p.distanceY q) (by omega)),
    SignedWord.fit?_bind (hfits (-(p.distanceY q : Int)) (by omega)),
    SignedWord.fit?_bind (hfits (p.distanceX q + -(p.distanceY q : Int)) (by omega)), hwalk]

end Words

section Straight

/-- Where the straight line from `(a, c)` to `(b, d)` stands at `x`. -/
def straight (a c b d x : Int) : ℚ :=
  c + (x - a) * (d - c) / (b - a)

def Touches (p q : Pixel) : Prop :=
  p ≠ q ∧ (q.x - p.x).natAbs ≤ 1 ∧ (q.y - p.y).natAbs ≤ 1

/-- A way from one pixel to another, as straight as pixels allow. -/
structure Traces (p q : Pixel) (ps : List Pixel) : Prop where
  length_eq : ps.length = max (q.x - p.x).natAbs (q.y - p.y).natAbs + 1
  head : ps.head? = some p
  last : ps.getLast? = some q
  touches : ps.IsChain Touches
  nodup : ps.Nodup
  between : ∀ r ∈ ps, (min p.x q.x ≤ r.x ∧ r.x ≤ max p.x q.x) ∧ min p.y q.y ≤ r.y ∧ r.y ≤ max p.y q.y
  near_flat : (q.y - p.y).natAbs ≤ (q.x - p.x).natAbs → ∀ r ∈ ps, |r.y - straight p.x p.y q.x q.y r.x| ≤ 1 / 2
  near_steep : (q.x - p.x).natAbs ≤ (q.y - p.y).natAbs → ∀ r ∈ ps, |r.x - straight p.y p.x q.y q.x r.y| ≤ 1 / 2

variable {p q : Pixel} {a b c d : Int} {k n : Nat}

theorem abs_share_sub_le (hn : 0 < n) (d k : Nat) : |(share n d k : ℚ) - k * d / n| ≤ 1 / 2 := by
  obtain ⟨hlow, hhigh⟩ := share_bounds hn d k
  have hlow' : 2 * (n * share n d k : ℚ) ≤ 2 * (k * d) + n := by exact_mod_cast hlow
  have hhigh' : 2 * (k * d : ℚ) < 2 * (n * share n d k) + n := by exact_mod_cast hhigh
  have hpos : (0 : ℚ) < n := by exact_mod_cast hn
  rw [sub_div' hpos.ne', abs_div, abs_of_pos hpos, div_le_iff₀ hpos, abs_le]
  constructor <;> linarith

theorem abs_toward (a b : Int) : |(toward a b : ℚ)| = 1 := by
  rcases toward_cases a b with ⟨h, -⟩ | ⟨h, -⟩ <;> rw [h] <;> norm_num

/-- Beside the axis of the longer distance a line keeps to the straight one within half a pixel. -/
theorem abs_sub_straight_le (h : (d - c).natAbs ≤ (b - a).natAbs) (hk : k ≤ (b - a).natAbs) :
    |((c + toward c d * share (b - a).natAbs (d - c).natAbs k : Int) : ℚ) -
      straight a c b d (a + toward a b * share (b - a).natAbs (b - a).natAbs k)| ≤ 1 / 2 := by
  obtain ⟨n, hn⟩ : ∃ n, (b - a).natAbs = n := ⟨_, rfl⟩
  obtain ⟨m, hm⟩ : ∃ m, (d - c).natAbs = m := ⟨_, rfl⟩
  have hx : ((b : ℚ) - a) = toward a b * n := by
    have := toward_mul a b
    rw [hn] at this
    exact_mod_cast this.symm
  have hy : ((d : ℚ) - c) = toward c d * m := by
    have := toward_mul c d
    rw [hm] at this
    exact_mod_cast this.symm
  rw [hn, hm] at h
  rw [hn] at hk
  rw [hn, hm, straight, hx, hy]
  rcases Nat.eq_zero_or_pos n with rfl | hpos
  · obtain rfl : k = 0 := by omega
    simp [share_zero]
  · have hself : (toward a b : ℚ) ≠ 0 := by
      intro hzero
      have := abs_toward a b
      rw [hzero] at this
      norm_num at this
    have hdiff : ((c + toward c d * share n m k : Int) : ℚ) -
        (c + ((a + toward a b * share n n k : Int) - a) * (toward c d * m) / (toward a b * n)) =
          toward c d * (share n m k - k * m / n) := by
      rw [share_self hpos]
      push_cast
      field_simp
      ring
    rw [hdiff, abs_mul, abs_toward, one_mul]
    exact abs_share_sub_le hpos m k

theorem touches_onLine (hpos : 0 < p.distance q) (k : Nat) : Touches (p.onLine q k) (p.onLine q (k + 1)) := by
  refine ⟨fun h => ?_, ?_, ?_⟩
  · have := onLine_inj hpos h
    omega
  · have hcases := share_succ_cases hpos (le_max_left _ _ : p.distanceX q ≤ p.distance q) k
    simp only [onLine]
    rcases toward_cases p.x q.x with ⟨h, -⟩ | ⟨h, -⟩ <;> rw [h] <;> omega
  · have hcases := share_succ_cases hpos (le_max_right _ _ : p.distanceY q ≤ p.distance q) k
    simp only [onLine]
    rcases toward_cases p.y q.y with ⟨h, -⟩ | ⟨h, -⟩ <;> rw [h] <;> omega

theorem traces_line (p q : Pixel) : Traces p q (line p q) := by
  have hmem {r : Pixel} (hr : r ∈ (List.range (p.distance q + 1)).map (p.onLine q)) :
      ∃ k ≤ p.distance q, p.onLine q k = r := by
    obtain ⟨k, hk, hr⟩ := List.mem_map.1 hr
    exact ⟨k, Nat.le_of_lt_succ (List.mem_range.1 hk), hr⟩
  rw [line_eq]
  constructor
  case length_eq =>
    rw [List.length_map, List.length_range]
    rfl
  case head =>
    rw [List.range_succ_eq_map, List.map_cons, onLine_zero]
    rfl
  case last =>
    rw [List.range_succ, List.map_append, List.map_singleton, onLine_distance, List.getLast?_concat]
  case touches =>
    rw [List.isChain_map, List.isChain_range_succ]
    intro k hk
    exact touches_onLine (by omega) k
  case nodup =>
    apply List.nodup_range.map_on
    intro i hi j hj h
    rw [List.mem_range] at hi hj
    rcases Nat.eq_zero_or_pos (p.distance q) with hzero | hpos
    · omega
    · exact onLine_inj hpos h
  case between =>
    intro r hr
    obtain ⟨k, hk, rfl⟩ := hmem hr
    exact onLine_between hk
  case near_flat =>
    intro hflat r hr
    obtain ⟨k, hk, rfl⟩ := hmem hr
    have hlong : p.distance q = (q.x - p.x).natAbs := max_eq_left hflat
    rw [hlong] at hk
    simp only [onLine, hlong]
    exact abs_sub_straight_le hflat hk
  case near_steep =>
    intro hsteep r hr
    obtain ⟨k, hk, rfl⟩ := hmem hr
    have hlong : p.distance q = (q.y - p.y).natAbs := max_eq_right hsteep
    rw [hlong] at hk
    simp only [onLine, hlong]
    exact abs_sub_straight_le hsteep hk

/-- A thin line goes from pixel to pixel as straight as pixels allow, and 32 bits are enough for it. -/
theorem line_straight (hp : p.Within (2 ^ 28)) (hq : q.Within (2 ^ 28)) :
    Traces p q (line p q) ∧ ∀ pixels, (line p q).length ≤ pixels → line32? pixels p q = some (line p q) := by
  refine ⟨traces_line p q, fun pixels hpixels => line32?_eq hp hq ?_⟩
  rw [line_eq, List.length_map, List.length_range] at hpixels
  exact hpixels

theorem line_straight_steep :
    Within ⟨2, -3⟩ (2 ^ 28) ∧ Within ⟨0, 2⟩ (2 ^ 28) ∧
      Traces ⟨2, -3⟩ ⟨0, 2⟩ [⟨2, -3⟩, ⟨2, -2⟩, ⟨1, -1⟩, ⟨1, 0⟩, ⟨0, 1⟩, ⟨0, 2⟩] ∧
      line32? 6 ⟨2, -3⟩ ⟨0, 2⟩ = some [⟨2, -3⟩, ⟨2, -2⟩, ⟨1, -1⟩, ⟨1, 0⟩, ⟨0, 1⟩, ⟨0, 2⟩] := by
  have hp : Within ⟨2, -3⟩ (2 ^ 28) := by decide
  have hq : Within ⟨0, 2⟩ (2 ^ 28) := by decide
  have hline : line ⟨2, -3⟩ ⟨0, 2⟩ = [⟨2, -3⟩, ⟨2, -2⟩, ⟨1, -1⟩, ⟨1, 0⟩, ⟨0, 1⟩, ⟨0, 2⟩] := by decide
  obtain ⟨htraces, hwords⟩ := line_straight hp hq
  rw [hline] at htraces hwords
  exact ⟨hp, hq, htraces, hwords 6 (by decide)⟩

end Straight

end Pixel

end BandCanvas
