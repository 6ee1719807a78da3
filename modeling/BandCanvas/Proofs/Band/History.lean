import BandCanvas.Band.Store

namespace BandCanvas

namespace BandStore

variable {s t : BandStore} {a b : Band} {id : Int} {i j : Nat}

theorem ext (h : s.bands = t.bands) : s = t := by
  obtain ⟨bands, index, sorted, rfl⟩ := s
  obtain ⟨bands', index', sorted', rfl⟩ := t
  obtain rfl : bands = bands' := h
  rfl

theorem bands_nodup (s : BandStore) : s.bands.Nodup :=
  s.sorted.imp fun hlt heq => by
    rw [heq] at hlt
    omega

theorem ext_mem (h : ∀ b, b ∈ s.bands ↔ b ∈ t.bands) : s = t := by
  have hperm : s.bands.Perm t.bands :=
    (List.perm_ext_iff_of_nodup s.bands_nodup t.bands_nodup).2 h
  exact ext (hperm.eq_of_pairwise (fun a b _ _ hab hba => by omega) s.sorted t.sorted)

theorem place_unique (hi : (s.bands[i]?).map Band.id = some id)
    (hj : (s.bands[j]?).map Band.id = some id) : i = j := by
  obtain ⟨a, ha, hida⟩ := Option.map_eq_some_iff.1 hi
  obtain ⟨b, hb, hidb⟩ := Option.map_eq_some_iff.1 hj
  obtain ⟨hia, rfl⟩ := List.getElem?_eq_some_iff.1 ha
  obtain ⟨hjb, rfl⟩ := List.getElem?_eq_some_iff.1 hb
  have hless := List.pairwise_iff_getElem.1 s.sorted
  rcases Nat.lt_trichotomy i j with hij | hij | hij
  · have hlt := hless i j hia hjb hij
    omega
  · exact hij
  · have hlt := hless j i hjb hia hij
    omega

theorem eq_of_id_eq (ha : a ∈ s.bands) (hb : b ∈ s.bands) (h : a.id = b.id) : a = b := by
  obtain ⟨i, hi⟩ := List.mem_iff_getElem?.1 ha
  obtain ⟨j, hj⟩ := List.mem_iff_getElem?.1 hb
  have hidi : (s.bands[i]?).map Band.id = some b.id := by
    rw [hi, Option.map_some, h]
  have hidj : (s.bands[j]?).map Band.id = some b.id := by
    rw [hj, Option.map_some]
  obtain rfl : i = j := place_unique hidi hidj
  rw [hi] at hj
  exact Option.some.inj hj

theorem position?_eq_some_iff : s.position? id = some i ↔ (s.bands[i]?).map Band.id = some id := by
  rcases Band.locate_cases s.sorted id with
    ⟨pre, c, post, hbands, hc, _, _, hplace⟩ | ⟨pre, post, hbands, hpre, hpost, hplace⟩
  · have hlisted : (s.bands[pre.length]?).map Band.id = some id := by
      rw [hbands, List.getElem?_append_right (Nat.le_refl _), Nat.sub_self, List.getElem?_cons_zero,
        Option.map_some, hc]
    rw [position?, hplace]
    constructor
    · intro h
      obtain rfl := Option.some.inj h
      exact hlisted
    · intro h
      exact congrArg some (place_unique hlisted h)
  · rw [position?, hplace]
    constructor
    · intro h
      cases h
    · intro h
      obtain ⟨c, hc, hid⟩ := Option.map_eq_some_iff.1 h
      have hmem : c ∈ s.bands := List.mem_of_getElem? hc
      rw [hbands] at hmem
      rcases List.mem_append.1 hmem with hmem | hmem
      · have hlt := hpre c hmem
        omega
      · have hlt := hpost c hmem
        omega

theorem find?_eq_some_iff : s.find? id = some b ↔ b ∈ s.bands ∧ b.id = id := by
  rw [find?, Option.bind_eq_some_iff]
  constructor
  · rintro ⟨i, hi, hb⟩
    have hid := position?_eq_some_iff.1 hi
    rw [hb, Option.map_some] at hid
    exact ⟨List.mem_of_getElem? hb, Option.some.inj hid⟩
  · rintro ⟨hb, rfl⟩
    obtain ⟨i, hi⟩ := List.mem_iff_getElem?.1 hb
    exact ⟨i, position?_eq_some_iff.2 (by rw [hi, Option.map_some]), hi⟩

theorem position?_eq_none_iff : s.position? id = none ↔ s.find? id = none := by
  constructor
  · intro h
    rw [find?, h]
    rfl
  · intro h
    cases hplace : s.position? id with
    | none => rfl
    | some i =>
      obtain ⟨b, hb, hid⟩ := Option.map_eq_some_iff.1 (position?_eq_some_iff.1 hplace)
      rw [find?_eq_some_iff.2 ⟨List.mem_of_getElem? hb, hid⟩] at h
      cases h

theorem mem_upsert_iff : a ∈ (s.upsert b).bands ↔ a = b ∨ a ∈ s.bands ∧ a.id ≠ b.id := by
  constructor
  · intro h
    rcases mem_upsert h with rfl | ha
    · exact .inl rfl
    · by_cases hid : a.id = b.id
      · exact .inl (eq_of_id_eq h (mem_upsert_self b s) hid)
      · exact .inr ⟨ha, hid⟩
  · rintro (rfl | ⟨ha, hid⟩)
    · exact mem_upsert_self a s
    · exact mem_upsert_of_ne ha hid

theorem upserted?_eq (b : Band) (s : BandStore) : s.upserted? b = some b := by
  show (b.put s.bands).2[(b.put s.bands).1]? = some b
  rcases Band.locate_cases s.sorted b.id with
    ⟨pre, c, post, hbands, -, -, -, hplace⟩ | ⟨pre, post, hbands, -, -, hplace⟩
  · rw [Band.put, hplace, hbands]
    simp
  · rw [Band.put, hplace, hbands]
    simp

theorem upsert_comm (h : a.id ≠ b.id) (s : BandStore) :
    (s.upsert a).upsert b = (s.upsert b).upsert a := by
  refine ext_mem fun c => ?_
  simp only [mem_upsert_iff]
  constructor
  · rintro (rfl | ⟨rfl | ⟨hc, hca⟩, hcb⟩)
    · exact .inr ⟨.inl rfl, fun heq => h heq.symm⟩
    · exact .inl rfl
    · exact .inr ⟨.inr ⟨hc, hcb⟩, hca⟩
  · rintro (rfl | ⟨rfl | ⟨hc, hcb⟩, hca⟩)
    · exact .inr ⟨.inl rfl, h⟩
    · exact .inl rfl
    · exact .inr ⟨.inr ⟨hc, hca⟩, hcb⟩

end BandStore

inductive StoreChange where
  | upsert (b : Band)
  | clear

namespace StoreChange

def apply : StoreChange → BandStore → BandStore
  | upsert b, s => s.upsert b
  | clear, _ => BandStore.empty

/-- The band that was written last for an identifier since the last clearing. The newest change stands
first. -/
def written (id : Int) : List StoreChange → Option Band
  | [] => none
  | upsert b :: past => if b.id = id then some b else written id past
  | clear :: _ => none

theorem id_of_written {id : Int} {b : Band} {past : List StoreChange} (h : written id past = some b) :
    b.id = id := by
  induction past with
  | nil => cases h
  | cons c past ih =>
    cases c with
    | upsert c =>
      rw [written] at h
      split at h
      next hid =>
        obtain rfl := Option.some.inj h
        exact hid
      next => exact ih h
    | clear => cases h

theorem mem_of_written {id : Int} {b : Band} {past : List StoreChange} (h : written id past = some b) :
    upsert b ∈ past := by
  induction past with
  | nil => cases h
  | cons c past ih =>
    cases c with
    | upsert c =>
      rw [written] at h
      split at h
      next =>
        obtain rfl := Option.some.inj h
        exact List.mem_cons_self
      next => exact List.mem_cons_of_mem _ (ih h)
    | clear => cases h

end StoreChange

namespace BandStore

open StoreChange

def after (past : List StoreChange) : BandStore :=
  past.foldr apply empty

variable {past : List StoreChange}

theorem mem_after_iff {b : Band} : b ∈ (after past).bands ↔ written b.id past = some b := by
  induction past with
  | nil => exact ⟨fun h => (nomatch h), fun h => (nomatch h)⟩
  | cons c past ih =>
    cases c with
    | upsert c =>
      show b ∈ ((after past).upsert c).bands ↔ _
      rw [mem_upsert_iff, ih, written]
      by_cases hid : c.id = b.id
      · rw [if_pos hid]
        constructor
        · rintro (rfl | ⟨-, hne⟩)
          · rfl
          · exact absurd hid.symm hne
        · intro h
          exact .inl (Option.some.inj h).symm
      · rw [if_neg hid]
        constructor
        · rintro (rfl | ⟨h, -⟩)
          · exact absurd rfl hid
          · exact h
        · intro h
          exact .inr ⟨h, fun heq => hid heq.symm⟩
    | clear => exact ⟨fun h => (nomatch h), fun h => (nomatch h)⟩

theorem find?_after (id : Int) (past : List StoreChange) : (after past).find? id = written id past := by
  refine Option.ext fun b => ?_
  rw [find?_eq_some_iff, mem_after_iff]
  constructor
  · rintro ⟨h, rfl⟩
    exact h
  · intro h
    obtain rfl := id_of_written h
    exact ⟨h, rfl⟩

/-- Bands with different identifiers can be written in any order. -/
theorem after_perm {bs cs : List Band} (h : bs.Perm cs) (hne : bs.Pairwise (·.id ≠ ·.id)) :
    after (bs.map .upsert ++ past) = after (cs.map .upsert ++ past) := by
  induction h with
  | nil => rfl
  | cons b _ ih => exact congrArg (BandStore.upsert b) (ih (List.pairwise_cons.1 hne).2)
  | swap b c bs =>
    have hbc : c.id ≠ b.id := (List.pairwise_cons.1 hne).1 b List.mem_cons_self
    exact upsert_comm hbc.symm _
  | trans hbs _ ih ih' =>
    exact (ih hne).trans (ih' (hne.perm hbs fun hne heq => hne heq.symm))

/-- The store is a finite map that lists, by increasing identifiers, the bands written last since it was
cleared. -/
theorem after_lists_written (past : List StoreChange) :
    ((after past).bands.map Band.id).Pairwise (· < ·) ∧
    (∀ b, b ∈ (after past).bands ↔ written b.id past = some b) ∧
    (∀ id, (after past).find? id = written id past) ∧
    (∀ id i, (after past).position? id = some i ↔
      ((after past).bands[i]?).map Band.id = some id) ∧
    (∀ id, (after past).position? id = none ↔ written id past = none) ∧
    (∀ b, (after past).upserted? b = some b) ∧
    ∀ bs cs : List Band, bs.Perm cs → bs.Pairwise (·.id ≠ ·.id) →
      after (bs.map .upsert ++ past) = after (cs.map .upsert ++ past) := by
  refine ⟨List.pairwise_map.2 (after past).sorted, fun b => mem_after_iff, fun id => find?_after id past,
    fun id i => position?_eq_some_iff, fun id => ?_, fun b => upserted?_eq b (after past),
    fun bs cs => after_perm⟩
  rw [position?_eq_none_iff, find?_after]

theorem after_lists_written_overwritten :
    let first : Band := ⟨3, "Summary", false, 10, 0, 0, "", 0⟩
    let second : Band := ⟨3, "DT", true, 5, 0, 20, "", 0⟩
    let other : Band := ⟨1, "DT", false, 5, 0, 30, "", 0⟩
    let past := [StoreChange.upsert first, .clear, .upsert ⟨7, "DT", false, 5, 0, 0, "", 0⟩]
    (after (.upsert second :: past)).find? 3 = some second ∧
      (after (.upsert second :: past)).find? 7 = none ∧
      [second, other].Perm [other, second] ∧ [second, other].Pairwise (·.id ≠ ·.id) ∧
      after ([second, other].map .upsert ++ past) = after ([other, second].map .upsert ++ past) := by
  intro first second other past
  obtain ⟨-, -, hfind, -, -, -, -⟩ := after_lists_written (.upsert second :: past)
  obtain ⟨-, -, -, -, -, -, hperm⟩ := after_lists_written past
  have hswap : [second, other].Perm [other, second] := .swap other second []
  have hne : [second, other].Pairwise (·.id ≠ ·.id) := by
    simp [second, other]
  exact ⟨hfind 3, hfind 7, hswap, hne, hperm _ _ hswap hne⟩

end BandStore

end BandCanvas
