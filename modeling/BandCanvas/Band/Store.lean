import BandCanvas.Bisection
import BandCanvas.Number.Rounding

namespace BandCanvas

/-- A horizontal region of the page, and where its commands start in the text that defined it. -/
structure Band where
  id : Int
  kind : String
  editable : Bool
  height : Float
  x : Float
  y : Float
  source : String
  offset : Nat
  deriving DecidableEq

namespace Band

def bottom (b : Band) : Float :=
  b.y + b.height

def containsY (b : Band) (y : Float) : Bool :=
  b.y ≤ y && y ≤ b.bottom

def isBackground (b : Band) : Bool :=
  b.kind == "Background"

/-- Puts a band at its place by identifier, over the band with the same one. -/
def insert (b : Band) : List Band → List Band
  | [] => [b]
  | a :: as =>
    if b.id < a.id then b :: a :: as
    else if b.id = a.id then b :: as
    else a :: insert b as

theorem mem_insert {a b : Band} {as : List Band} (h : a ∈ insert b as) : a = b ∨ a ∈ as := by
  induction as with
  | nil => simpa [insert] using h
  | cons c as ih =>
    rw [insert] at h
    split at h
    · simpa using h
    · split at h
      · simp only [List.mem_cons] at h ⊢
        exact h.imp (fun h => h) .inr
      · simp only [List.mem_cons] at h ⊢
        rcases h with h | h
        · exact .inr (.inl h)
        · exact (ih h).imp (fun h => h) .inr

theorem mem_insert_self (b : Band) (as : List Band) : b ∈ insert b as := by
  induction as with
  | nil => exact List.mem_singleton_self b
  | cons a as ih =>
    rw [insert]
    split
    · exact List.mem_cons_self
    · split
      · exact List.mem_cons_self
      · exact List.mem_cons_of_mem a ih

theorem mem_insert_of_ne {a b : Band} {as : List Band} (h : a ∈ as) (hne : a.id ≠ b.id) :
    a ∈ insert b as := by
  induction as with
  | nil => cases h
  | cons c as ih =>
    rw [insert]
    split
    · exact List.mem_cons_of_mem b h
    · split
      next heq =>
        rcases List.mem_cons.1 h with rfl | h
        · exact absurd heq.symm hne
        · exact List.mem_cons_of_mem b h
      next =>
        rcases List.mem_cons.1 h with rfl | h
        · exact List.mem_cons_self
        · exact List.mem_cons_of_mem c (ih h)

theorem pairwise_insert (b : Band) {as : List Band} (h : as.Pairwise (·.id < ·.id)) :
    (insert b as).Pairwise (·.id < ·.id) := by
  induction as with
  | nil => simp [insert]
  | cons a as ih =>
    obtain ⟨ha, has⟩ := List.pairwise_cons.1 h
    rw [insert]
    split
    next hlt =>
      refine List.pairwise_cons.2 ⟨fun c hc => ?_, h⟩
      rcases List.mem_cons.1 hc with rfl | hc
      · exact hlt
      · exact Int.lt_trans hlt (ha c hc)
    next hlt =>
      split
      next heq =>
        exact List.pairwise_cons.2 ⟨fun c hc => heq ▸ ha c hc, has⟩
      next hne =>
        refine List.pairwise_cons.2 ⟨fun c hc => ?_, ih has⟩
        rcases mem_insert hc with rfl | hc
        · omega
        · exact ha c hc

/-- A place among listed bands: that of a band, or one between bands. -/
inductive Place where
  | taken (index : Nat)
  | free (index : Nat)
  deriving DecidableEq

def locate (id : Int) (as : List Band) : Place :=
  let i := partitionPoint (fun a => a.id < id) as
  if as[i]?.any (·.id = id) then .taken i else .free i

/-- Puts a band at the place that is found for it. Gives the place as well. -/
def put (b : Band) (as : List Band) : Nat × List Band :=
  match locate b.id as with
  | .taken i => (i, as.set i b)
  | .free i => (i, as.take i ++ b :: as.drop i)

theorem insert_append {b : Band} {pre : List Band} (hpre : ∀ a ∈ pre, a.id < b.id) (post : List Band) :
    insert b (pre ++ post) = pre ++ insert b post := by
  induction pre with
  | nil => rfl
  | cons a pre ih =>
    have ha : a.id < b.id := hpre a List.mem_cons_self
    rw [List.cons_append, insert, if_neg (by omega), if_neg (by omega),
      ih fun c hc => hpre c (List.mem_cons_of_mem a hc), List.cons_append]

theorem insert_of_lt {b : Band} {post : List Band} (hpost : ∀ a ∈ post, b.id < a.id) :
    insert b post = b :: post := by
  cases post with
  | nil => rfl
  | cons a post => rw [insert, if_pos (hpost a List.mem_cons_self)]

theorem insert_of_eq {a b : Band} (h : a.id = b.id) (post : List Band) :
    insert b (a :: post) = b :: post := by
  rw [insert, if_neg (by omega), if_pos h.symm]

theorem locate_cases {as : List Band} (h : as.Pairwise (·.id < ·.id)) (id : Int) :
    (∃ pre a post, as = pre ++ a :: post ∧ a.id = id ∧ (∀ c ∈ pre, c.id < id) ∧
        (∀ c ∈ post, id < c.id) ∧ locate id as = .taken pre.length) ∨
      (∃ pre post, as = pre ++ post ∧ (∀ c ∈ pre, c.id < id) ∧ (∀ c ∈ post, id < c.id) ∧
        locate id as = .free pre.length) := by
  have horder : as.Pairwise fun a b => decide (b.id < id) = true → decide (a.id < id) = true :=
    h.imp fun hab hb => decide_eq_true (Int.lt_trans hab (of_decide_eq_true hb))
  obtain ⟨pre, post, rfl, hpre, hpost, hpoint⟩ := exists_partition horder
  have hbefore : ∀ c ∈ pre, c.id < id := fun c hc => of_decide_eq_true (hpre c hc)
  cases post with
  | nil =>
    refine .inr ⟨pre, [], rfl, hbefore, List.forall_mem_nil _, ?_⟩
    have hget : (pre ++ [])[pre.length]? = none := by
      rw [List.append_nil]
      exact List.getElem?_eq_none (Nat.le_refl _)
    simp only [locate, hpoint, hget, Option.any_none, Bool.false_eq_true, if_false]
  | cons a post =>
    have ha : ¬ a.id < id := of_decide_eq_false (hpost a List.mem_cons_self)
    have hafter : ∀ c ∈ post, a.id < c.id :=
      (List.pairwise_cons.1 (List.pairwise_append.1 h).2.1).1
    have hget : (pre ++ a :: post)[pre.length]? = some a := by
      rw [List.getElem?_append_right (Nat.le_refl _), Nat.sub_self, List.getElem?_cons_zero]
    by_cases heq : a.id = id
    · refine .inl ⟨pre, a, post, rfl, heq, hbefore, fun c hc => heq ▸ hafter c hc, ?_⟩
      simp only [locate, hpoint, hget, Option.any_some, heq, decide_true, if_true]
    · refine .inr ⟨pre, a :: post, rfl, hbefore, fun c hc => ?_, ?_⟩
      · rcases List.mem_cons.1 hc with rfl | hc
        · omega
        · have hlt := hafter c hc
          omega
      · simp only [locate, hpoint, hget, Option.any_some, heq, decide_false, Bool.false_eq_true,
          if_false]

/-- The place that is found for a band keeps the bands in order. -/
theorem put_eq_insert (b : Band) {as : List Band} (h : as.Pairwise (·.id < ·.id)) :
    (put b as).2 = insert b as := by
  rcases locate_cases h b.id with
    ⟨pre, a, post, rfl, ha, hpre, _, hplace⟩ | ⟨pre, post, rfl, hpre, hpost, hplace⟩
  · rw [put, hplace, insert_append hpre, insert_of_eq ha]
    simp only [List.set_append_right _ _ (Nat.le_refl _), Nat.sub_self, List.set_cons_zero]
  · rw [put, hplace, insert_append hpre, insert_of_lt hpost]
    simp only [List.take_left, List.drop_left]

end Band

namespace BandStore

/-- An entry of the vertical index: a band, and the lowest bottom edge among it and those before it. -/
structure Slot where
  band : Band
  reach : Float

def slots (reach : Float) : List Band → List Slot
  | [] => []
  | b :: bs =>
    let reach := Binary64.greatest reach b.bottom
    ⟨b, reach⟩ :: slots reach bs

/-- The bands but the background by their upper edge; equal edges keep the order they are listed in. -/
def verticalIndex (bands : List Band) : List Slot :=
  slots (-Binary64.infinity)
    ((bands.filter (!·.isBackground)).mergeSort fun a b => Binary64.totalLE a.y b.y)

end BandStore

/-- The bands by identifier, and an index for the search by height. -/
structure BandStore where
  bands : List Band
  index : List BandStore.Slot
  sorted : bands.Pairwise (·.id < ·.id)
  indexed : index = BandStore.verticalIndex bands

namespace BandStore

def empty : BandStore where
  bands := []
  index := []
  sorted := .nil
  indexed := by simp [verticalIndex, slots]

def isEmpty (s : BandStore) : Bool :=
  s.bands.isEmpty

def size (s : BandStore) : Nat :=
  s.bands.length

/-- Puts a band into the store, over the one with the same identifier, and makes the index anew. -/
def upsert (b : Band) (s : BandStore) : BandStore where
  bands := (b.put s.bands).2
  index := verticalIndex (b.put s.bands).2
  sorted := by
    rw [Band.put_eq_insert b s.sorted]
    exact Band.pairwise_insert b s.sorted
  indexed := rfl

/-- The band that an upsert has written, as it is found at its place. -/
def upserted? (b : Band) (s : BandStore) : Option Band :=
  (s.upsert b).bands[(b.put s.bands).1]?

def position? (id : Int) (s : BandStore) : Option Nat :=
  match Band.locate id s.bands with
  | .taken i => some i
  | .free _ => none

def find? (id : Int) (s : BandStore) : Option Band :=
  (s.position? id).bind (s.bands[·]?)

/-- Goes up from the lowest start until a band holds `y`, or none above can reach down to it. -/
def search (y : Float) : List Slot → Option Band
  | [] => none
  | s :: ss =>
    if s.reach < y then none
    else if s.band.containsY y then some s.band
    else search y ss

/-- The band at a height of the page. Where bands overlap, the one that starts lowest. -/
def findAtY? (y : Float) (s : BandStore) : Option Band :=
  if y.isNaN then none
  else search y (s.index.take (partitionPoint (·.band.y ≤ y) s.index)).reverse

theorem upsert_bands (b : Band) (s : BandStore) : (s.upsert b).bands = b.insert s.bands :=
  Band.put_eq_insert b s.sorted

variable {a b : Band} {s : BandStore}

theorem mem_upsert (h : a ∈ (s.upsert b).bands) : a = b ∨ a ∈ s.bands := by
  rw [upsert_bands] at h
  exact Band.mem_insert h

theorem mem_upsert_self (b : Band) (s : BandStore) : b ∈ (s.upsert b).bands := by
  rw [upsert_bands]
  exact Band.mem_insert_self b s.bands

theorem mem_upsert_of_ne (h : a ∈ s.bands) (hne : a.id ≠ b.id) : a ∈ (s.upsert b).bands := by
  rw [upsert_bands]
  exact Band.mem_insert_of_ne h hne

end BandStore

end BandCanvas
