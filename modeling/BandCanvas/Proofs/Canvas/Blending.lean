import Mathlib.Data.UInt
import BandCanvas.Proofs.Canvas.Changes
import BandCanvas.Proofs.Number.Word32

namespace BandCanvas

namespace Color

def channels : List (Color → UInt8) :=
  [red, green, blue]

def Between (a b c : Color) : Prop :=
  ∀ channel ∈ channels, min (channel a) (channel b) ≤ channel c ∧ channel c ≤ max (channel a) (channel b)

instance (a b c : Color) : Decidable (Between a b c) :=
  inferInstanceAs (Decidable (∀ channel ∈ channels, _ ∧ _))

/-- What is cut off from the alpha of a lower color under an upper one, in parts of 255. -/
def cutOff (upper lower : Color) : Nat :=
  lower.alpha.toNat * (255 - upper.alpha.toNat) % 255

/-- The alpha of a translucent color over another one. -/
def total (upper lower : Color) : Nat :=
  upper.alpha.toNat + lower.alpha.toNat * (255 - upper.alpha.toNat) / 255

def blendChannel32? (alpha below total : Nat) (upper lower : UInt8) : Option UInt8 := do
  let share ← Word32.mul? upper.toNat alpha
  let lowerShare ← Word32.mul? lower.toNat below
  let rest ← Word32.sub? 255 alpha
  let lowerShare ← Word32.mul? lowerShare rest
  let lowerShare ← Word32.div? lowerShare 255
  let sum ← Word32.add? share lowerShare
  let value ← Word32.div? sum total
  pure (UInt8.ofNat (min value 255))

def blendOver32? (upper lower : Color) : Option Color :=
  if upper.alpha = 0 then some lower
  else if upper.alpha = 255 then some upper
  else do
    let alpha := upper.alpha.toNat
    let below := lower.alpha.toNat
    let rest ← Word32.sub? 255 alpha
    let lowerShare ← Word32.mul? below rest
    let lowerShare ← Word32.div? lowerShare 255
    let total ← Word32.add? alpha lowerShare
    let red ← blendChannel32? alpha below total upper.red lower.red
    let green ← blendChannel32? alpha below total upper.green lower.green
    let blue ← blendChannel32? alpha below total upper.blue lower.blue
    pure ⟨red, green, blue, UInt8.ofNat (min total 255)⟩

section Channel

variable {a b m s d t : Nat} {u l : UInt8}

theorem lowerShare_eq (d q : Nat) : d * q / 255 = d * (q / 255) + d * (q % 255) / 255 := by
  have hsplit : d * q = 255 * (d * (q / 255)) + d * (q % 255) := by
    rw [Nat.mul_left_comm, ← Nat.mul_add, Nat.div_add_mod]
  rw [hsplit, Nat.mul_add_div (by decide)]

theorem toNat_blendChannel (a b t : Nat) (u l : UInt8) :
    (blendChannel a b t u l).toNat =
      min ((u.toNat * a + l.toNat * (b * (255 - a) / 255) + l.toNat * (b * (255 - a) % 255) / 255) / t) 255 := by
  rw [blendChannel, UInt8.toNat_ofNat', Nat.mod_eq_of_lt (by omega), Nat.mul_assoc, lowerShare_eq, Nat.add_assoc]

theorem mul_le_parts (a k : Nat) (hs : m ≤ s) (hd : m ≤ d) : m * (a + k) ≤ s * a + d * k := by
  rw [Nat.mul_add]
  exact Nat.add_le_add (Nat.mul_le_mul_right a hs) (Nat.mul_le_mul_right k hd)

theorem parts_le_mul (a k : Nat) (hs : s ≤ m) (hd : d ≤ m) : s * a + d * k ≤ m * (a + k) := by
  rw [Nat.mul_add]
  exact Nat.add_le_add (Nat.mul_le_mul_right a hs) (Nat.mul_le_mul_right k hd)

theorem least_le_blendChannel (ha : 0 < a) (b : Nat) (u l : UInt8) :
    min u l ≤ blendChannel a b (a + b * (255 - a) / 255) u l := by
  have hu := u.toNat_lt
  have hparts : min u.toNat l.toNat * (a + b * (255 - a) / 255) ≤
      u.toNat * a + l.toNat * (b * (255 - a) / 255) :=
    mul_le_parts a _ (Nat.min_le_left ..) (Nat.min_le_right ..)
  have hquot : min u.toNat l.toNat ≤ (u.toNat * a + l.toNat * (b * (255 - a) / 255) +
      l.toNat * (b * (255 - a) % 255) / 255) / (a + b * (255 - a) / 255) := by
    rw [Nat.le_div_iff_mul_le (by omega)]
    exact Nat.le_add_right_of_le hparts
  rw [UInt8.le_iff_toNat_le, toNat_blendChannel, UInt8.toNat_min]
  omega

/-- Less than the divisor is kept of what is cut off, unless the channel is the greatest there is. -/
theorem blendChannel_le_greatest (h : b * (255 - a) % 255 ≤ a + b * (255 - a) / 255) (ha : 0 < a)
    (u l : UInt8) : blendChannel a b (a + b * (255 - a) / 255) u l ≤ max u l := by
  have hu := u.toNat_lt
  have hl := l.toNat_lt
  have hparts : u.toNat * a + l.toNat * (b * (255 - a) / 255) ≤
      max u.toNat l.toNat * (a + b * (255 - a) / 255) :=
    parts_le_mul a _ (Nat.le_max_left ..) (Nat.le_max_right ..)
  rw [UInt8.le_iff_toNat_le, toNat_blendChannel, UInt8.toNat_max]
  generalize b * (255 - a) % 255 = f at h ⊢
  generalize hk : b * (255 - a) / 255 = k at h hparts ⊢
  have hkept : max u.toNat l.toNat < 255 → l.toNat * f / 255 < a + k := by
    intro hmax
    rw [Nat.div_lt_iff_lt_mul (by decide)]
    calc l.toNat * f ≤ 254 * (a + k) := Nat.mul_le_mul (by omega) h
      _ < (a + k) * 255 := by omega
  rcases Nat.lt_or_ge (max u.toNat l.toNat) 255 with hmax | hmax
  · have hquot : (u.toNat * a + l.toNat * k + l.toNat * f / 255) / (a + k) < max u.toNat l.toNat + 1 := by
      rw [Nat.div_lt_iff_lt_mul (by omega), Nat.succ_mul]
      have := hkept hmax
      omega
    omega
  · omega

/-- Two equal channels come out greater where too much is cut off. -/
theorem blendChannel_overshoots (h : a + b * (255 - a) / 255 < b * (255 - a) % 255) (ha : 0 < a) :
    blendChannel a b (a + b * (255 - a) / 255) 254 254 = 255 := by
  have hf : b * (255 - a) % 255 < 255 := Nat.mod_lt _ (by decide)
  apply UInt8.toNat_inj.1
  rw [toNat_blendChannel]
  generalize b * (255 - a) % 255 = f at h hf ⊢
  generalize b * (255 - a) / 255 = k at h ⊢
  have hkept : 254 * f / 255 = f - 1 := by omega
  have hquot : 255 ≤ (254 * a + 254 * k + 254 * f / 255) / (a + k) := by
    rw [Nat.le_div_iff_mul_le (by omega), hkept]
    omega
  exact Nat.min_eq_right hquot

end Channel

variable {upper lower : Color}

theorem total_le (upper lower : Color) : upper.total lower ≤ 255 := by
  have hu := upper.alpha.toNat_lt
  have hl := lower.alpha.toNat_lt
  have hshare : lower.alpha.toNat * (255 - upper.alpha.toNat) / 255 ≤ 255 - upper.alpha.toNat := by
    apply Nat.div_le_of_le_mul
    exact Nat.mul_le_mul_right _ (by omega)
  rw [total]
  omega

theorem le_total (upper lower : Color) : lower.alpha.toNat ≤ upper.total lower := by
  have hu := upper.alpha.toNat_lt
  have hl := lower.alpha.toNat_lt
  have hshare : lower.alpha.toNat - upper.alpha.toNat ≤
      lower.alpha.toNat * (255 - upper.alpha.toNat) / 255 := by
    rw [Nat.le_div_iff_mul_le (by decide), Nat.sub_mul, Nat.mul_sub, Nat.mul_comm upper.alpha.toNat]
    have := Nat.mul_le_mul_right upper.alpha.toNat (show lower.alpha.toNat ≤ 255 by omega)
    omega
  rw [total]
  omega

theorem blendOver_translucent (h0 : 0 < upper.alpha) (h255 : upper.alpha < 255) (lower : Color) :
    upper.blendOver lower =
      { red := blendChannel upper.alpha.toNat lower.alpha.toNat (upper.total lower) upper.red lower.red
        green := blendChannel upper.alpha.toNat lower.alpha.toNat (upper.total lower) upper.green lower.green
        blue := blendChannel upper.alpha.toNat lower.alpha.toNat (upper.total lower) upper.blue lower.blue
        alpha := UInt8.ofNat (upper.total lower) } := by
  have hne0 : upper.alpha ≠ 0 := by
    intro heq
    rw [heq] at h0
    exact absurd h0 (by decide)
  have hne255 : upper.alpha ≠ 255 := by
    intro heq
    rw [heq] at h255
    exact absurd h255 (by decide)
  have hmin : min (upper.total lower) 255 = upper.total lower := Nat.min_eq_left (total_le upper lower)
  rw [total] at hmin
  rw [blendOver, if_neg hne0, if_neg hne255]
  simp only [hmin]
  rfl

theorem alpha_blendOver (h0 : 0 < upper.alpha) (h255 : upper.alpha < 255) (lower : Color) :
    (upper.blendOver lower).alpha.toNat = upper.total lower := by
  have hle := total_le upper lower
  rw [blendOver_translucent h0 h255, UInt8.toNat_ofNat', Nat.mod_eq_of_lt (by omega)]

theorem channel_blendOver (h0 : 0 < upper.alpha) (h255 : upper.alpha < 255) (lower : Color)
    {channel : Color → UInt8} (h : channel ∈ channels) :
    channel (upper.blendOver lower) =
      blendChannel upper.alpha.toNat lower.alpha.toNat (upper.total lower) (channel upper) (channel lower) := by
  rw [blendOver_translucent h0 h255]
  simp only [channels, List.mem_cons, List.not_mem_nil, or_false] at h
  rcases h with rfl | rfl | rfl <;> rfl

theorem between_of_cutOff_le (h0 : 0 < upper.alpha) (h255 : upper.alpha < 255)
    (h : upper.cutOff lower ≤ upper.total lower) : Between upper lower (upper.blendOver lower) := by
  have hpos : 0 < upper.alpha.toNat := UInt8.lt_iff_toNat_lt.1 h0
  intro channel hmem
  rw [channel_blendOver h0 h255 lower hmem]
  exact ⟨least_le_blendChannel hpos _ _ _, blendChannel_le_greatest h hpos _ _⟩

theorem forall_between_iff (h0 : 0 < upper.alpha) (h255 : upper.alpha < 255) (lower : Color) :
    (∀ u l : Color, u.alpha = upper.alpha → l.alpha = lower.alpha → Between u l (u.blendOver l)) ↔
      upper.cutOff lower ≤ upper.total lower := by
  constructor
  · intro hall
    by_contra hover
    let u : Color := ⟨254, 254, 254, upper.alpha⟩
    let l : Color := ⟨254, 254, 254, lower.alpha⟩
    have hred : red (u.blendOver l) = 255 := by
      have hmem : red ∈ channels := by simp [channels]
      have hchannel := @channel_blendOver u h0 h255 l red hmem
      exact hchannel.trans (blendChannel_overshoots (Nat.lt_of_not_le hover) (UInt8.lt_iff_toNat_lt.1 h0))
    have hle := (hall u l rfl rfl red (by simp [channels])).2
    rw [hred] at hle
    exact absurd (show (255 : UInt8) ≤ max 254 254 from hle) (by decide)
  · intro hle u l hu hl
    apply between_of_cutOff_le
    · rwa [hu]
    · rwa [hu]
    · rwa [cutOff, total, hu, hl]

theorem cutOff_eq_zero (upper : Color) (h : lower.alpha = 255) : upper.cutOff lower = 0 := by
  rw [cutOff, h]
  exact Nat.mul_mod_right 255 _

theorem blendOver_of_clear (h0 : 0 < upper.alpha) (h255 : upper.alpha < 255) (h : lower.alpha = 0) :
    upper.blendOver lower = upper := by
  have hpos : 0 < upper.alpha.toNat := UInt8.lt_iff_toNat_lt.1 h0
  have htotal : upper.total lower = upper.alpha.toNat := by simp [total, h]
  have hchannel (u l : UInt8) : blendChannel upper.alpha.toNat 0 upper.alpha.toNat u l = u := by
    have hlt := u.toNat_lt
    apply UInt8.toNat_inj.1
    rw [toNat_blendChannel]
    simp only [Nat.zero_mul, Nat.zero_div, Nat.zero_mod, Nat.mul_zero, Nat.add_zero, Nat.mul_div_cancel _ hpos]
    omega
  rw [blendOver_translucent h0 h255, htotal, h]
  simp only [UInt8.toNat_zero, hchannel, UInt8.ofNat_toNat]

theorem blendChannel32?_eq {alpha below total : Nat} (ha : alpha ≤ 255) (hb : below ≤ 255) (ht : 0 < total)
    (u l : UInt8) :
    blendChannel32? alpha below total u l = some (blendChannel alpha below total u l) := by
  have hu := u.toNat_lt
  have hl := l.toNat_lt
  have hlimit : Word32.limit = 4294967296 := rfl
  have hshare : u.toNat * alpha ≤ 255 * 255 := Nat.mul_le_mul (by omega) ha
  have hbelow : l.toNat * below ≤ 255 * 255 := Nat.mul_le_mul (by omega) hb
  have hlower : l.toNat * below * (255 - alpha) ≤ 255 * 255 * 255 := Nat.mul_le_mul hbelow (by omega)
  have hsum : u.toNat * alpha + l.toNat * below * (255 - alpha) / 255 < Word32.limit := by omega
  simp only [blendChannel32?, Word32.mul?_eq (show u.toNat * alpha < Word32.limit by omega),
    Word32.mul?_eq (show l.toNat * below < Word32.limit by omega), Word32.sub?_eq ha,
    Word32.mul?_eq (show l.toNat * below * (255 - alpha) < Word32.limit by omega),
    Word32.div?_eq (show 0 < 255 by decide), Word32.add?_eq hsum, Word32.div?_eq ht, Option.bind_eq_bind,
    Option.bind_some]
  rfl

theorem blendOver32?_eq (upper lower : Color) : blendOver32? upper lower = some (upper.blendOver lower) := by
  have ha : upper.alpha.toNat ≤ 255 := Nat.le_of_lt_succ upper.alpha.toNat_lt
  have hb : lower.alpha.toNat ≤ 255 := Nat.le_of_lt_succ lower.alpha.toNat_lt
  have hlimit : Word32.limit = 4294967296 := rfl
  have hlower : lower.alpha.toNat * (255 - upper.alpha.toNat) ≤ 255 * 255 := Nat.mul_le_mul hb (by omega)
  have hsum : upper.alpha.toNat + lower.alpha.toNat * (255 - upper.alpha.toNat) / 255 < Word32.limit := by
    omega
  rw [blendOver32?, blendOver]
  split
  · rfl
  next hne =>
    split
    · rfl
    have hpos : upper.alpha.toNat ≠ 0 := fun h => hne (UInt8.toNat_inj.1 h)
    have htotal : 0 < upper.alpha.toNat + lower.alpha.toNat * (255 - upper.alpha.toNat) / 255 := by omega
    simp only [Word32.sub?_eq ha,
      Word32.mul?_eq (show lower.alpha.toNat * (255 - upper.alpha.toNat) < Word32.limit by omega),
      Word32.div?_eq (show 0 < 255 by decide), Word32.add?_eq hsum, blendChannel32?_eq ha hb htotal,
      Option.bind_eq_bind, Option.bind_some]
    rfl

/-- What is true of the mixture of a translucent color and the one below it. -/
structure Mixes (upper lower c : Color) : Prop where
  fits : blendOver32? upper lower = some c
  alpha_eq : c.alpha.toNat = upper.total lower
  upper_le : upper.alpha ≤ c.alpha
  lower_le : lower.alpha ≤ c.alpha
  eq_of_clear : lower.alpha = 0 → c = upper
  least_le : ∀ channel ∈ channels, min (channel upper) (channel lower) ≤ channel c
  between : upper.cutOff lower ≤ c.alpha.toNat → Between upper lower c
  between_over_full : lower.alpha = 255 → Between upper lower c
  forall_between_iff :
    (∀ u l : Color, u.alpha = upper.alpha → l.alpha = lower.alpha → Between u l (u.blendOver l)) ↔
      upper.cutOff lower ≤ c.alpha.toNat

theorem mixes_blendOver (h0 : 0 < upper.alpha) (h255 : upper.alpha < 255) (lower : Color) :
    Mixes upper lower (upper.blendOver lower) := by
  have halpha := alpha_blendOver h0 h255 lower
  constructor
  case fits => exact blendOver32?_eq upper lower
  case alpha_eq => exact halpha
  case upper_le =>
    rw [UInt8.le_iff_toNat_le, halpha]
    exact Nat.le_add_right ..
  case lower_le =>
    rw [UInt8.le_iff_toNat_le, halpha]
    exact le_total upper lower
  case eq_of_clear => exact blendOver_of_clear h0 h255
  case least_le =>
    intro channel hmem
    rw [channel_blendOver h0 h255 lower hmem]
    exact least_le_blendChannel (UInt8.lt_iff_toNat_lt.1 h0) _ _ _
  case between =>
    rw [halpha]
    exact between_of_cutOff_le h0 h255
  case between_over_full =>
    intro hopaque
    apply between_of_cutOff_le h0 h255
    rw [cutOff_eq_zero upper hopaque]
    exact Nat.zero_le _
  case forall_between_iff =>
    rw [halpha]
    exact Color.forall_between_iff h0 h255 lower

end Color

namespace Bitmap

/-- A translucent color changes the pixel it is painted over, and no other, to a mixture of the two. -/
theorem translucent_pixel (b : Bitmap) (p : Pixel) (upper : Color) (h0 : 0 < upper.alpha)
    (h255 : upper.alpha < 255) :
    let after := b.modifyPixel upper.blendOver p
    after.width = b.width ∧ after.height = b.height ∧
    (∀ x y : Nat, p ≠ ⟨x, y⟩ → after.get? x y = b.get? x y) ∧
    ((∀ x y : Nat, p = ⟨x, y⟩ → b.get? x y = none) → after = b) ∧
    ∀ (x y : Nat) (lower : Color), p = ⟨x, y⟩ → b.get? x y = some lower →
      ∃ c, after.get? x y = some c ∧ Color.Mixes upper lower c := by
  intro after
  have hchanged := modifyPixel_changed upper.blendOver p b
  have hother (x y : Nat) (h : p ≠ ⟨x, y⟩) : after.get? x y = b.get? x y := by
    rw [hchanged.get?_eq, if_neg h, Option.map_id, id]
  refine ⟨hchanged.width_eq, hchanged.height_eq, hother, ?_, ?_⟩
  · intro hoff
    apply ext_get? hchanged.width_eq hchanged.height_eq
    intro x y
    by_cases h : p = ⟨x, y⟩
    · rw [hchanged.get?_eq, hoff x y h, Option.map_none]
    · exact hother x y h
  · intro x y lower h hlower
    refine ⟨upper.blendOver lower, ?_, Color.mixes_blendOver h0 h255 lower⟩
    rw [hchanged.get?_eq, if_pos h, hlower, Option.map_some]

theorem translucent_pixel_white :
    let upper : Color := ⟨255, 0, 0, 128⟩
    0 < upper.alpha ∧ upper.alpha < 255 ∧
      ∃ c, ((filled 2 1 Color.white).modifyPixel upper.blendOver ⟨1, 0⟩).get? 1 0 = some c ∧
        Color.Between upper Color.white c := by
  intro upper
  obtain ⟨-, -, -, -, hpixel⟩ :=
    translucent_pixel (filled 2 1 Color.white) ⟨1, 0⟩ upper (by decide) (by decide)
  obtain ⟨c, hc, hmixes⟩ := hpixel 1 0 Color.white rfl (by decide)
  exact ⟨by decide, by decide, c, hc, hmixes.between_over_full rfl⟩

/-- A faint gray painted twice comes out twice as bright. -/
theorem not_between_faint :
    ¬∀ (b : Bitmap) (x y : Nat) (upper lower c : Color), 0 < upper.alpha → upper.alpha < 255 →
      b.get? x y = some lower → (b.modifyPixel upper.blendOver ⟨x, y⟩).get? x y = some c →
      Color.Between upper lower c := by
  intro hall
  have hbetween := hall (filled 1 1 ⟨100, 100, 100, 1⟩) 0 0 ⟨100, 100, 100, 1⟩ ⟨100, 100, 100, 1⟩
    ⟨199, 199, 199, 1⟩ (by decide) (by decide) (by decide) (by decide)
  exact absurd hbetween (by decide)

end Bitmap

end BandCanvas
