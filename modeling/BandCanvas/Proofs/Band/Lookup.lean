import BandCanvas.Proofs.Band.History
import BandCanvas.Proofs.Number.Order

namespace BandCanvas

open Binary64

namespace Band

variable {b : Band} {y r : Float}

/-- Whether a band comes before another in the vertical index. -/
def Above (a b : Band) : Prop :=
  totalKey a.y < totalKey b.y ∨ totalKey a.y = totalKey b.y ∧ a.id < b.id

def Within (b : Band) (reach : Float) : Prop :=
  b.bottom.isNaN = false → rank b.bottom ≤ rank reach

theorem containsY_iff : b.containsY y = true ↔ b.y ≤ y ∧ y ≤ b.bottom := by
  rw [containsY, Bool.and_eq_true, decide_eq_true_iff, decide_eq_true_iff]

theorem Within.not_containsY (h : b.Within r) (hr : r.isNaN = false) (hlt : r < y) :
    b.containsY y = false := by
  refine Bool.eq_false_iff.2 fun hcontains => ?_
  have hle := (containsY_iff.1 hcontains).2
  obtain ⟨hy, hbottom⟩ := not_isNaN_of_le hle
  have hbelow := h hbottom
  rw [le_iff_rank hy hbottom] at hle
  rw [lt_iff_rank hr hy] at hlt
  omega

end Band

namespace BandStore

def foreground (bands : List Band) : List Band :=
  (bands.filter (!·.isBackground)).mergeSort fun a b => totalLE a.y b.y

variable {bands : List Band} {a b : Band} {y r : Float} {s : BandStore}

theorem mem_foreground : b ∈ foreground bands ↔ b ∈ bands ∧ b.isBackground = false := by
  rw [foreground, List.mem_mergeSort, List.mem_filter, Bool.not_eq_true']

theorem totalLE_trans (a b c : Band) (hab : totalLE a.y b.y = true) (hbc : totalLE b.y c.y = true) :
    totalLE a.y c.y = true :=
  decide_eq_true (Int.le_trans (of_decide_eq_true hab) (of_decide_eq_true hbc))

theorem totalLE_total (a b : Band) : (totalLE a.y b.y || totalLE b.y a.y) = true := by
  rw [Bool.or_eq_true]
  exact (Int.le_total (totalKey a.y) (totalKey b.y)).imp decide_eq_true decide_eq_true

theorem filter_foreground (key : Int) (bands : List Band) :
    (foreground bands).filter (fun b => totalKey b.y = key) =
      (bands.filter (!·.isBackground)).filter fun b => totalKey b.y = key := by
  have hperm := (List.mergeSort_perm (bands.filter (!·.isBackground))
    fun a b => totalLE a.y b.y).filter fun b => decide (totalKey b.y = key)
  have htied : ((bands.filter (!·.isBackground)).filter fun b => decide (totalKey b.y = key)).Pairwise
      fun a b => totalLE a.y b.y = true := by
    refine List.pairwise_of_forall_mem_list fun a ha b hb => ?_
    have hakey := of_decide_eq_true (List.mem_filter.1 ha).2
    have hbkey := of_decide_eq_true (List.mem_filter.1 hb).2
    exact decide_eq_true (by omega)
  -- the sort is stable, so the tied bands keep their order; and it loses none of them
  have hsub := (List.sublist_mergeSort totalLE_trans totalLE_total htied List.filter_sublist).filter
    fun b => decide (totalKey b.y = key)
  rw [List.filter_filter] at hsub
  simp only [Bool.and_self] at hsub
  exact (hsub.eq_of_length hperm.length_eq.symm).symm

theorem foreground_above (s : BandStore) : (foreground s.bands).Pairwise Band.Above := by
  refine List.pairwise_iff_forall_sublist.2 fun {a b} hab => ?_
  have hle : totalKey a.y ≤ totalKey b.y := by
    have hsorted := List.pairwise_mergeSort totalLE_trans totalLE_total
      (s.bands.filter (!·.isBackground))
    exact of_decide_eq_true (List.pairwise_iff_forall_sublist.1 hsorted hab)
  by_cases hlt : totalKey a.y < totalKey b.y
  · exact .inl hlt
  · have heq : totalKey a.y = totalKey b.y := by omega
    have htied : [a, b].Sublist s.bands := by
      have hsub := hab.filter fun c => decide (totalKey c.y = totalKey b.y)
      rw [filter_foreground] at hsub
      have hboth : [a, b].filter (fun c => decide (totalKey c.y = totalKey b.y)) = [a, b] := by
        simp [heq]
      rw [hboth] at hsub
      exact hsub.trans (List.filter_sublist.trans List.filter_sublist)
    exact .inr ⟨heq, List.pairwise_iff_forall_sublist.1 s.sorted htied⟩

theorem slots_bands (r : Float) (bands : List Band) : (slots r bands).map Slot.band = bands := by
  induction bands generalizing r with
  | nil => rfl
  | cons b bands ih => exact congrArg (b :: ·) (ih _)

theorem slots_reach (hr : r.isNaN = false) (bands : List Band) :
    (∀ s ∈ slots r bands, s.reach.isNaN = false ∧ rank r ≤ rank s.reach ∧ s.band.Within s.reach) ∧
      (slots r bands).Pairwise fun s t => rank s.reach ≤ rank t.reach := by
  induction bands generalizing r with
  | nil => exact ⟨List.forall_mem_nil _, .nil⟩
  | cons b bands ih =>
    have hnan := not_isNaN_greatest hr b.bottom
    have hle := rank_le_greatest_left hr b.bottom
    obtain ⟨hall, hpairwise⟩ := ih hnan
    refine ⟨fun s hs => ?_, List.pairwise_cons.2 ⟨fun s hs => (hall s hs).2.1, hpairwise⟩⟩
    rcases List.mem_cons.1 hs with rfl | hs
    · exact ⟨hnan, hle, rank_le_greatest_right hr⟩
    · obtain ⟨hsnan, hsle, hwithin⟩ := hall s hs
      exact ⟨hsnan, Int.le_trans hle hsle, hwithin⟩

/-- Stopping where none above can reach down to the height misses no band. -/
theorem search_eq_find? {slots : List Slot} (y : Float)
    (hreach : ∀ s ∈ slots, s.reach.isNaN = false ∧ s.band.Within s.reach)
    (hpairwise : slots.Pairwise fun s t => rank t.reach ≤ rank s.reach) :
    search y slots = (slots.map Slot.band).find? (·.containsY y) := by
  induction slots with
  | nil => rfl
  | cons s slots ih =>
    obtain ⟨hbelow, hrest⟩ := List.pairwise_cons.1 hpairwise
    obtain ⟨hnan, hwithin⟩ := hreach s List.mem_cons_self
    have hreach' : ∀ t ∈ slots, t.reach.isNaN = false ∧ t.band.Within t.reach := fun t ht =>
      hreach t (List.mem_cons_of_mem s ht)
    rw [search]
    split
    next hlt =>
      refine (List.find?_eq_none.2 fun b hb => ?_).symm
      obtain ⟨t, ht, rfl⟩ := List.mem_map.1 hb
      have htwithin : t.band.Within s.reach := by
        rcases List.mem_cons.1 ht with rfl | ht
        · exact hwithin
        · exact fun hbottom => Int.le_trans ((hreach' t ht).2 hbottom) (hbelow t ht)
      rw [htwithin.not_containsY hnan hlt]
      exact Bool.false_ne_true
    next =>
      rw [List.map_cons, List.find?_cons, ih hreach' hrest]
      cases s.band.containsY y <;> rfl

theorem findAtY?_eq_find? (hy : ∀ b ∈ s.bands, b.y.isNaN = false) (hnan : y.isNaN = false) :
    s.findAtY? y = (foreground s.bands).reverse.find? (·.containsY y) := by
  have hbands : s.index.map Slot.band = foreground s.bands := by
    rw [s.indexed]
    exact slots_bands _ _
  obtain ⟨hreach, hpairwise⟩ := slots_reach (r := -infinity) rfl (foreground s.bands)
  have hindex : s.index = slots (-infinity) (foreground s.bands) := s.indexed
  rw [← hindex] at hreach hpairwise
  -- the bands that start above the height come first, since the total order refines the comparison
  have horder : (s.index.map Slot.band).Pairwise fun a b =>
      decide (b.y ≤ y) = true → decide (a.y ≤ y) = true := by
    rw [hbands]
    have hsorted := List.pairwise_mergeSort totalLE_trans totalLE_total
      (s.bands.filter (!·.isBackground))
    refine hsorted.imp_of_mem fun {a b} ha hb hab hle => ?_
    have hay := hy a (mem_foreground.1 ha).1
    have hby := hy b (mem_foreground.1 hb).1
    have hrank := rank_le_of_totalLE hab
    have hle := of_decide_eq_true hle
    rw [le_iff_rank hby hnan] at hle
    exact decide_eq_true ((le_iff_rank hay hnan).2 (Int.le_trans hrank hle))
  obtain ⟨pre, post, hsplit, -, hpost, hpoint⟩ := exists_partition (List.pairwise_map.1 horder)
  have htake : s.index.take (partitionPoint (fun t => decide (t.band.y ≤ y)) s.index) = pre := by
    rw [hpoint, hsplit, List.take_left]
  have hsearch : search y pre.reverse = (pre.reverse.map Slot.band).find? (·.containsY y) := by
    rw [hsplit] at hreach hpairwise
    refine search_eq_find? y (fun t ht => ?_) ?_
    · obtain ⟨htnan, -, hwithin⟩ := hreach t (List.mem_append_left post (List.mem_reverse.1 ht))
      exact ⟨htnan, hwithin⟩
    · exact List.pairwise_reverse.2 (List.pairwise_append.1 hpairwise).1
  have hbelow : (post.reverse.map Slot.band).find? (·.containsY y) = none := by
    refine List.find?_eq_none.2 fun b hb hcontains => ?_
    obtain ⟨t, ht, rfl⟩ := List.mem_map.1 hb
    have hstarts := of_decide_eq_false (hpost t (List.mem_reverse.1 ht))
    exact hstarts (Band.containsY_iff.1 hcontains).1
  rw [findAtY?, hnan, if_neg Bool.false_ne_true, htake, hsearch, ← hbands, hsplit, List.map_append,
    List.reverse_append, List.find?_append, ← List.map_reverse, ← List.map_reverse, hbelow]
  rfl

theorem findAtY?_nan (hnan : y.isNaN = true) (s : BandStore) : s.findAtY? y = none := by
  rw [findAtY?, hnan, if_pos rfl]

theorem mem_of_search {slots : List Slot} (h : search y slots = some b) : b ∈ slots.map Slot.band := by
  induction slots with
  | nil => cases h
  | cons s slots ih =>
    rw [search] at h
    split at h
    · cases h
    · split at h
      · obtain rfl := Option.some.inj h
        exact List.mem_cons_self
      · exact List.mem_cons_of_mem _ (ih h)

theorem mem_of_findAtY? (h : s.findAtY? y = some b) : b ∈ s.bands := by
  rw [findAtY?] at h
  split at h
  · cases h
  · obtain ⟨slot, hslot, rfl⟩ := List.mem_map.1 (mem_of_search h)
    have hindex : slot ∈ s.index := List.mem_of_mem_take (List.mem_reverse.1 hslot)
    have hmem : slot.band ∈ s.index.map Slot.band := List.mem_map_of_mem hindex
    rw [s.indexed, verticalIndex, slots_bands] at hmem
    exact (mem_foreground.1 hmem).1

theorem findAtY?_single (hy : b.y.isNaN = false) (hnan : y.isNaN = false)
    (hforeground : b.isBackground = false) (hcontains : b.containsY y = true) :
    (empty.upsert b).findAtY? y = some b := by
  have hbands : (empty.upsert b).bands = [b] := upsert_bands b empty
  rw [findAtY?_eq_find?]
  · have hlisted : foreground [b] = [b] := by simp [foreground, hforeground]
    rw [hbands, hlisted]
    simp [hcontains]
  · rw [hbands]
    exact List.forall_mem_singleton.2 hy
  · exact hnan

/-- Among ordered bands, going up from the last one finds the one behind all others. -/
theorem find?_reverse_greatest {p : Band → Bool} (hbands : bands.Pairwise Band.Above)
    (hb : bands.reverse.find? p = some b) :
    b ∈ bands ∧ p b = true ∧ ∀ a ∈ bands, p a = true → a = b ∨ a.Above b := by
  obtain ⟨hp, post, pre, hsplit, hpost⟩ := List.find?_eq_some_iff_append.1 hb
  have hmem : b ∈ bands.reverse := by
    rw [hsplit]
    exact List.mem_append_right post List.mem_cons_self
  have hbelow : ∀ a ∈ pre, a.Above b := by
    have hreverse := List.pairwise_reverse.2 hbands
    rw [hsplit] at hreverse
    exact (List.pairwise_cons.1 (List.pairwise_append.1 hreverse).2.1).1
  refine ⟨List.mem_reverse.1 hmem, hp, fun a ha hpa => ?_⟩
  have harev := List.mem_reverse.2 ha
  rw [hsplit] at harev
  rcases List.mem_append.1 harev with hin | hin
  · have hnot := hpost a hin
    rw [hpa] at hnot
    exact absurd hnot Bool.false_ne_true
  · rcases List.mem_cons.1 hin with rfl | hin
    · exact .inl rfl
    · exact .inr (hbelow a hin)

/-- The search by height agrees with a scan of all bands but the background: the lowest start wins, then the
last one listed. -/
theorem findAtY?_agrees_scan {past : List StoreChange}
    (hpast : ∀ b, StoreChange.upsert b ∈ past → b.y.isNaN = false) (y : Float) :
    ((after past).findAtY? y = none ↔
      y.isNaN = true ∨
        ∀ b ∈ (after past).bands, b.isBackground = false → b.containsY y = false) ∧
    ∀ b, (after past).findAtY? y = some b →
      b ∈ (after past).bands ∧ b.isBackground = false ∧ b.containsY y = true ∧
      ∀ a ∈ (after past).bands, a.isBackground = false → a.containsY y = true → a = b ∨ a.Above b := by
  cases hnan : y.isNaN with
  | true =>
    rw [findAtY?_nan hnan]
    exact ⟨⟨fun _ => .inl rfl, fun _ => rfl⟩, fun b hb => nomatch hb⟩
  | false =>
    have hstarts : ∀ b ∈ (after past).bands, b.y.isNaN = false := fun b hb =>
      hpast b (StoreChange.mem_of_written (mem_after_iff.1 hb))
    rw [findAtY?_eq_find? hstarts hnan]
    constructor
    · rw [List.find?_eq_none]
      constructor
      · intro h
        exact .inr fun b hb hforeground =>
          Bool.eq_false_iff.2 (h b (List.mem_reverse.2 (mem_foreground.2 ⟨hb, hforeground⟩)))
      · rintro (h | h) b hb
        · cases h
        · obtain ⟨hb, hforeground⟩ := mem_foreground.1 (List.mem_reverse.1 hb)
          exact Bool.eq_false_iff.1 (h b hb hforeground)
    · intro b hfind
      obtain ⟨hb, hcontains, hgreatest⟩ :=
        find?_reverse_greatest (foreground_above (after past)) hfind
      obtain ⟨hb, hforeground⟩ := mem_foreground.1 hb
      refine ⟨hb, hforeground, hcontains, fun a ha haforeground hacontains => ?_⟩
      exact hgreatest a (mem_foreground.2 ⟨ha, haforeground⟩) hacontains

theorem findAtY?_agrees_scan_tall :
    let tall : Band := ⟨1, "Summary", false, 100, 0, 0, "", 0⟩
    let low : Band := ⟨2, "DT", false, 5, 0, 10, "", 0⟩
    (∀ b, StoreChange.upsert b ∈ [.upsert low, .upsert tall] → b.y.isNaN = false) ∧
      (after [.upsert low, .upsert tall]).findAtY? 50 = some tall := by
  intro tall low
  have hstarts : ∀ b, StoreChange.upsert b ∈ [.upsert low, .upsert tall] → b.y.isNaN = false := by
    intro b hb
    simp only [List.mem_cons, StoreChange.upsert.injEq, List.not_mem_nil, or_false] at hb
    rcases hb with rfl | rfl
    · decide
    · decide
  refine ⟨hstarts, ?_⟩
  obtain ⟨hnone, hsome⟩ := findAtY?_agrees_scan hstarts 50
  have htall : tall ∈ (after [.upsert low, .upsert tall]).bands := mem_after_iff.2 rfl
  have hcontains : tall.containsY 50 = true := by decide
  cases hfind : (after [.upsert low, .upsert tall]).findAtY? 50 with
  | none =>
    rcases hnone.1 hfind with hnan | hall
    · exact absurd hnan (by decide)
    · exact absurd (hall tall htall rfl) (by rw [hcontains]; decide)
  | some b =>
    obtain ⟨hb, -, hbcontains, -⟩ := hsome b hfind
    have hwritten := StoreChange.mem_of_written (mem_after_iff.1 hb)
    simp only [List.mem_cons, StoreChange.upsert.injEq, List.not_mem_nil, or_false] at hwritten
    rcases hwritten with rfl | rfl
    · exact absurd hbcontains (by decide)
    · rfl

end BandStore

end BandCanvas
