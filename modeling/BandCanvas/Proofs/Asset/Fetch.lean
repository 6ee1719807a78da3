import BandCanvas.Asset.Cache

namespace BandCanvas.ImageCache

variable {c c' c'' e : ImageCache} {path p : String} {paths more : List String}

structure Asked (c c' : ImageCache) (paths : List String) : Prop where
  entries : c'.entries = paths.reverse.map (·, .pending) ++ c.entries
  unknown : ∀ p ∈ paths, c.get? p = none
  nodup : paths.Nodup

/-- The second cache knows all paths of the first, and holds the same pictures. -/
structure Extends (c e : ImageCache) : Prop where
  known : ∀ p, e.get? p = none → c.get? p = none
  ready : ∀ p, e.ready? p = c.ready? p

theorem Extends.trans (h : c.Extends c') (h' : c'.Extends e) : c.Extends e where
  known p hp := h.known p (h'.known p hp)
  ready p := (h'.ready p).trans (h.ready p)

theorem lookup_map_pending (p : String) (paths : List String) :
    (paths.map (·, ImageEntry.pending)).lookup p = if p ∈ paths then some .pending else none := by
  induction paths with
  | nil => rfl
  | cons q paths ih =>
    rw [List.map_cons, List.lookup_cons, ih]
    by_cases hq : p = q
    · simp [hq]
    · simp [hq, beq_false_of_ne hq]

namespace Asked

theorem refl (c : ImageCache) : c.Asked c [] where
  entries := rfl
  unknown _ hp := nomatch hp
  nodup := .nil

theorem get?_eq (h : c.Asked c' paths) (p : String) :
    c'.get? p = if p ∈ paths then some .pending else c.get? p := by
  have hlookup := lookup_map_pending p paths.reverse
  rw [get?, h.entries, List.lookup_append, hlookup]
  by_cases hp : p ∈ paths
  · rw [if_pos hp, if_pos (List.mem_reverse.2 hp)]
    rfl
  · rw [if_neg hp, if_neg fun hrev => hp (List.mem_reverse.1 hrev)]
    rfl

theorem trans (h : c.Asked c' paths) (h' : c'.Asked c'' more) : c.Asked c'' (paths ++ more) := by
  have hnew : ∀ p ∈ more, p ∉ paths ∧ c.get? p = none := by
    intro p hp
    have hunknown := h'.unknown p hp
    rw [h.get?_eq] at hunknown
    split at hunknown
    next => cases hunknown
    next hnot => exact ⟨hnot, hunknown⟩
  refine ⟨?_, fun p hp => ?_, ?_⟩
  · rw [h'.entries, h.entries, List.reverse_append, List.map_append, List.append_assoc]
  · rcases List.mem_append.1 hp with hp | hp
    · exact h.unknown p hp
    · exact (hnew p hp).2
  · refine List.nodup_append.2 ⟨h.nodup, h'.nodup, ?_⟩
    rintro p hp q hq rfl
    exact (hnew p hq).1 hp

theorem toExtends (h : c.Asked c' paths) : c.Extends c' := by
  constructor
  · intro p hp
    rw [h.get?_eq] at hp
    split at hp
    next => cases hp
    next => exact hp
  · intro p
    by_cases hp : p ∈ paths
    · rw [ready?, h.get?_eq, if_pos hp, ready?, h.unknown p hp]
    · rw [ready?, h.get?_eq, if_neg hp, ready?]

end Asked

theorem beginFetch_cases (path : String) (c : ImageCache) :
    (c.get? path = none ∧ (c.beginFetch path).1 = true ∧ c.Asked (c.beginFetch path).2 [path]) ∨
      (c.get? path ≠ none ∧ c.beginFetch path = (false, c)) := by
  cases hget : c.get? path with
  | none =>
    refine .inl ⟨rfl, ?_⟩
    rw [beginFetch, hget]
    refine ⟨rfl, rfl, fun p hp => ?_, List.nodup_cons.2 ⟨List.not_mem_nil, .nil⟩⟩
    rw [List.mem_singleton.1 hp, hget]
  | some entry =>
    refine .inr ⟨fun h => (nomatch h), ?_⟩
    rw [beginFetch, hget]

end BandCanvas.ImageCache
