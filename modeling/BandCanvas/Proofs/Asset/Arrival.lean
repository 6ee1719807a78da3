import BandCanvas.Asset.Loader
import BandCanvas.Proofs.Asset.Fetch

namespace BandCanvas

namespace ImageLoad

def first? (path : String) (ls : List ImageLoad) : Option ImageLoad :=
  ls.find? (·.path = path)

theorem first?_append (path : String) (ls more : List ImageLoad) :
    first? path (ls ++ more) = (first? path ls).or (first? path more) :=
  List.find?_append

theorem first?_cons (path : String) (l : ImageLoad) (ls : List ImageLoad) :
    first? path (l :: ls) = (first? path [l]).or (first? path ls) :=
  first?_append path [l] ls

theorem first?_singleton (path : String) (l : ImageLoad) :
    first? path [l] = if l.path = path then some l else none := by
  by_cases hpath : l.path = path <;> simp [first?, hpath]

theorem first?_eq_none {path : String} {ls : List ImageLoad} (h : ∀ l ∈ ls, l.path ≠ path) :
    first? path ls = none := by
  rw [first?, List.find?_eq_none]
  intro l hl
  simpa using h l hl

theorem first?_eq_some {path : String} {l : ImageLoad} {ls : List ImageLoad}
    (h : first? path ls = some l) : l ∈ ls ∧ l.path = path :=
  ⟨List.mem_of_find?_eq_some h, by simpa using List.find?_some h⟩

end ImageLoad

namespace ImageEntry

variable {e : ImageEntry}

/-- An entry once a load has come for it, if one has. -/
def after (e : ImageEntry) (load : Option ImageLoad) : ImageEntry :=
  match e, load with
  | .pending, some l => ofLoad l.picture
  | e, _ => e

theorem pending_after (load : Option ImageLoad) :
    pending.after load = load.elim .pending fun l => ofLoad l.picture := by
  cases load <;> rfl

theorem after_of_ne_pending (he : e ≠ .pending) (load : Option ImageLoad) : e.after load = e := by
  cases e with
  | pending => exact absurd rfl he
  | ready | broken => rfl

theorem after_none (e : ImageEntry) : e.after none = e := by
  cases e <;> rfl

theorem ofLoad_ne_pending (result : Option Bitmap) : ofLoad result ≠ .pending := by
  cases result with
  | none => exact nofun
  | some b =>
    rw [ofLoad]
    split <;> exact nofun

theorem after_after (e : ImageEntry) (load later : Option ImageLoad) :
    (e.after load).after later = e.after (load.or later) := by
  cases e with
  | pending =>
    cases load with
    | none => rfl
    | some l => exact after_of_ne_pending (ofLoad_ne_pending l.picture) later
  | ready | broken => rfl

theorem isEmpty_of_after {load : Option ImageLoad} {b : Bitmap} (h : e.after load = .ready b)
    (he : e = .ready b → b.isEmpty = false) : b.isEmpty = false := by
  cases e with
  | ready | broken => exact he h
  | pending =>
    cases load with
    | none => cases h
    | some l =>
      change ofLoad l.picture = .ready b at h
      cases hpicture : l.picture with
      | none =>
        rw [hpicture] at h
        cases h
      | some picture =>
        rw [hpicture, ofLoad] at h
        split at h
        next => cases h
        next hempty =>
          cases h
          exact Bool.eq_false_iff.2 hempty

end ImageEntry

namespace ImageCache

theorem set_get? (path : String) (entry : ImageEntry) (c : ImageCache) (p : String) :
    (c.set path entry).get? p = if p = path then (c.get? p).map fun _ => entry else c.get? p := by
  obtain ⟨entries⟩ := c
  rw [set, get?, get?]
  induction entries with
  | nil => simp
  | cons x entries ih =>
    obtain ⟨q, e⟩ := x
    by_cases hq : q = path
    · by_cases hp : p = q
      · simp [hq, hp]
      · have hne : (p == path) = false := beq_false_of_ne fun hpath => hp (hpath.trans hq.symm)
        simp only [List.map_cons, hq, if_pos, List.lookup_cons, hne]
        exact ih
    · by_cases hp : p = q
      · simp [hq, hp]
      · simp only [List.map_cons, hq, if_false, List.lookup_cons, beq_false_of_ne hp]
        exact ih

theorem complete_get? (l : ImageLoad) (c : ImageCache) (p : String) :
    (c.complete l.path l.picture).2.get? p =
      (c.get? p).map fun e => e.after (ImageLoad.first? p [l]) := by
  rw [ImageLoad.first?_singleton, complete]
  by_cases hp : l.path = p
  · rw [hp]
    cases hget : c.get? p with
    | none => simp [hget]
    | some e =>
      cases e with
      | pending => simp [set_get?, hget, ImageEntry.after]
      | ready | broken => simp [hget, ImageEntry.after]
  · have hafter : (fun e : ImageEntry => e.after (if l.path = p then some l else none)) = id := by
      funext e
      rw [if_neg hp, ImageEntry.after_none, id]
    rw [hafter, Option.map_id, id]
    split
    · rw [set_get?, if_neg fun h => hp h.symm]
    · rfl

theorem set_paths (path : String) (entry : ImageEntry) (c : ImageCache) :
    (c.set path entry).entries.map Prod.fst = c.entries.map Prod.fst := by
  rw [set, List.map_map]
  apply List.map_congr_left
  intro x _
  by_cases hx : x.1 = path <;> simp [hx]

theorem complete_paths (path : String) (result : Option Bitmap) (c : ImageCache) :
    (c.complete path result).2.entries.map Prod.fst = c.entries.map Prod.fst := by
  rw [complete]
  split
  · exact c.set_paths path _
  · rfl

theorem ready?_eq_some {path : String} {c : ImageCache} {b : Bitmap} :
    c.ready? path = some b ↔ c.get? path = some (.ready b) := by
  rw [ready?]
  cases c.get? path with
  | none => simp
  | some e => cases e <;> simp

theorem get?_eq_none_iff {path : String} {c : ImageCache} :
    c.get? path = none ↔ path ∉ c.entries.map Prod.fst := by
  rw [get?, List.lookup_eq_none_iff]
  constructor
  · intro h hmem
    obtain ⟨x, hx, rfl⟩ := List.mem_map.1 hmem
    have hne := h x hx
    simp at hne
  · intro h x hx
    have hne : path ≠ x.1 := fun hpath => h (List.mem_map.2 ⟨x, hx, hpath.symm⟩)
    simpa using hne

end ImageCache

end BandCanvas
