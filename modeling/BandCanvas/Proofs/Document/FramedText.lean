import Mathlib.Data.List.Forall2
import BandCanvas.Proofs.Band.Lookup
import BandCanvas.Proofs.Command.SelfDelimiting
import BandCanvas.Proofs.Document.Frame

namespace BandCanvas

namespace Cursor

theorem seek_shift (target offset n : Nat) (previous previous' : Option Char) (s : List Char) :
    (seek target offset previous s).rest = (seek (n + target) (n + offset) previous' s).rest ∧
      (seek (n + target) (n + offset) previous' s).offset = n + (seek target offset previous s).offset := by
  induction s generalizing offset previous previous' with
  | nil => exact ⟨rfl, rfl⟩
  | cons c s ih =>
    rw [seek, seek]
    by_cases hc : offset + c.utf8Size ≤ target
    · rw [if_pos hc, if_pos (by omega), Nat.add_assoc]
      exact ih _ _ _
    · rw [if_neg hc, if_neg (by omega)]
      exact ⟨rfl, rfl⟩

theorem atOffset_framed (c : String) (n : Nat) :
    (atOffset c n).rest = (atOffset ("D:" ++ c) (2 + n)).rest ∧
      (atOffset ("D:" ++ c) (2 + n)).offset = 2 + (atOffset c n).offset := by
  have htext : ("D:" ++ c).toList = ['D', ':'] ++ c.toList := String.toList_append
  have hd : 'D'.utf8Size = 1 := rfl
  have hcolon : ':'.utf8Size = 1 := rfl
  have hpast : atOffset ("D:" ++ c) (2 + n) = seek (2 + n) (2 + 0) (some ':') c.toList := by
    rw [atOffset, htext, List.cons_append, seek, if_pos (by omega), List.cons_append, seek,
      if_pos (by omega)]
    rfl
  rw [hpast]
  exact seek_shift n 0 2 none (some ':') c.toList

end Cursor

namespace Step

def shift (n : Nat) (x : Step) : Step :=
  (x.1.mapError (DecodeError.shift n), { x.2 with offset := n + x.2.offset })

theorem finds_shift (p : Command → Bool) (n : Nat) (x : Step) : finds p (x.shift n) = finds p x := by
  obtain ⟨r, c⟩ := x
  cases r <;> rfl

theorem through_shift (p : Command → Bool) (n : Nat) (xs : List Step) :
    through p (xs.map (shift n)) = (through p xs).map (shift n) := by
  induction xs with
  | nil => rfl
  | cons x xs ih =>
    rw [List.map_cons, through, through, finds_shift, ih]
    split <;> rfl

theorem before_shift (p : Command → Bool) (n : Nat) (xs : List Step) :
    before p (xs.map (shift n)) = (before p xs).map (shift n) := by
  rw [before, before, List.takeWhile_map]
  simp only [Function.comp_def, finds_shift]

end Step

theorem Paint.runSteps_shift (ratio : Float) (n : Nat) (xs : List Step) (s : PaintState)
    (images : ImageCache) :
    Paint.runSteps ratio (xs.map (Step.shift n)) s images = Paint.runSteps ratio xs s images := by
  induction xs generalizing s images with
  | nil => rfl
  | cons x xs ih =>
    obtain ⟨r, c⟩ := x
    cases r with
    | error e => exact ih s images
    | ok k =>
      simp only [List.map_cons, Step.shift, Except.mapError, Paint.runSteps]
      rw [ih]

namespace Fragment

/-- One of the parts that are kept, or a part of `c` in the text of its message. -/
inductive Framed (kept : Fragment → Prop) (c : String) : Fragment → Fragment → Prop
  | same {f : Fragment} (hf : kept f) : Framed kept c f f
  | shifted (n : Nat) : Framed kept c ⟨c, n⟩ ⟨"D:" ++ c, n + 2⟩

variable {kept : Fragment → Prop} {c : String} {f f' : Fragment}

theorem steps_framed (c : String) (n : Nat) :
    (cursor ⟨"D:" ++ c, n + 2⟩).steps = (cursor ⟨c, n⟩).steps.map (Step.shift 2) := by
  obtain ⟨hrest, hoffset⟩ := Cursor.atOffset_framed c n
  rw [Nat.add_comm n 2]
  exact Cursor.steps_shift hrest hoffset

theorem decoded_framed (c : String) (n : Nat) :
    decoded ⟨"D:" ++ c, n + 2⟩ = (decoded ⟨c, n⟩).map (Step.shift 2) := by
  rw [decoded, decoded, steps_framed, Step.through_shift]

theorem Framed.replay (h : Framed kept c f f') (ratio : Float) : f'.replay ratio = f.replay ratio := by
  cases h with
  | same => rfl
  | shifted n =>
    funext images
    have hreplayed : replayed ⟨"D:" ++ c, n + 2⟩ = (replayed ⟨c, n⟩).map (Step.shift 2) := by
      rw [replayed, replayed, steps_framed, Step.before_shift]
    rw [replay_eq_runSteps, replay_eq_runSteps, hreplayed, Paint.runSteps_shift]

theorem replayAll_framed {fs fs' : List Fragment} (h : List.Forall₂ (Framed kept c) fs fs') (ratio : Float)
    (images : ImageCache) : replayAll ratio fs' images = replayAll ratio fs images := by
  induction h generalizing images with
  | nil => rfl
  | cons hf _ ih => simp only [replayAll, hf.replay, ih]

theorem Framed.imp {kept' : Fragment → Prop} (h : Framed kept c f f') (himp : ∀ f, kept f → kept' f) :
    Framed kept' c f f' := by
  cases h with
  | same hf => exact .same (himp f hf)
  | shifted n => exact .shifted n

theorem pending_imp {kept' : Fragment → Prop} {p p' : Option Fragment} (h : Option.Rel (Framed kept c) p p')
    (himp : ∀ f, kept f → kept' f) : Option.Rel (Framed kept' c) p p' := by
  cases h with
  | some hf => exact .some (hf.imp himp)
  | none => exact .none

theorem pending_toList {p p' : Option Fragment} (h : Option.Rel (Framed kept c) p p') :
    List.Forall₂ (Framed kept c) p.toList p'.toList := by
  cases h with
  | some hf => exact .cons hf .nil
  | none => exact .nil

end Fragment

/-- The same finding, at a place of the one text and at that place of the other. -/
structure Step.Framed (kept : Fragment → Prop) (c source source' : String) (x x' : Step) : Prop where
  found : x'.1.toOption = x.1.toOption
  place : Fragment.Framed kept c ⟨source, x.2.offset⟩ ⟨source', x'.2.offset⟩

theorem Step.shift_framed (kept : Fragment → Prop) (c : String) (x : Step) :
    Step.Framed kept c c ("D:" ++ c) x (x.shift 2) := by
  obtain ⟨r, n⟩ := x
  constructor
  · cases r <;> rfl
  · have hplace : Fragment.Framed kept c ⟨c, n.offset⟩ ⟨"D:" ++ c, n.offset + 2⟩ := .shifted n.offset
    rw [Nat.add_comm] at hplace
    exact hplace

namespace Band

def bare (b : Band) : Band :=
  { b with source := "", offset := 0 }

/-- The same band, with commands from parts of texts that correspond. -/
structure Framed (kept : Fragment → Prop) (c : String) (b b' : Band) : Prop where
  rest : b'.bare = b.bare
  fragment : Fragment.Framed kept c b.fragment b'.fragment

variable {kept : Fragment → Prop} {c : String} {b b' : Band}

theorem Framed.id_eq (h : b.Framed kept c b') : b'.id = b.id :=
  (Band.mk.inj h.rest).1

theorem Framed.insert (h : b.Framed kept c b') {as as' : List Band}
    (has : List.Forall₂ (Band.Framed kept c) as as') :
    List.Forall₂ (Band.Framed kept c) (b.insert as) (b'.insert as') := by
  induction has with
  | nil => exact .cons h .nil
  | cons ha has ih =>
    rw [Band.insert, Band.insert, h.id_eq, ha.id_eq]
    split
    · exact .cons h (.cons ha has)
    · split
      · exact .cons h has
      · exact .cons ha ih

theorem map_bare_framed {as as' : List Band} (has : List.Forall₂ (Band.Framed kept c) as as') :
    as'.map Band.bare = as.map Band.bare := by
  induction has with
  | nil => rfl
  | cons ha _ ih => rw [List.map_cons, List.map_cons, ha.rest, ih]

end Band

namespace BandStore

def bare (s : BandStore) : BandStore where
  bands := s.bands.map Band.bare
  index := verticalIndex (s.bands.map Band.bare)
  sorted := List.pairwise_map.2 s.sorted
  indexed := rfl

theorem slots_bare (reach : Float) (bands : List Band) :
    slots reach (bands.map Band.bare) = (slots reach bands).map fun t => { t with band := t.band.bare } := by
  induction bands generalizing reach with
  | nil => rfl
  | cons b bands ih => exact congrArg (_ :: ·) (ih _)

theorem index_bare (s : BandStore) :
    s.bare.index = s.index.map fun t => { t with band := t.band.bare } := by
  have hsort : (foreground s.bands).map Band.bare = foreground (s.bands.map Band.bare) := by
    rw [foreground, foreground, List.filter_map]
    exact List.map_mergeSort fun _ _ _ _ => rfl
  rw [s.indexed]
  exact (congrArg (slots _) hsort).symm.trans (slots_bare _ _)

theorem search_bare (y : Float) (ts : List Slot) :
    search y (ts.map fun t => { t with band := t.band.bare }) = (search y ts).map Band.bare := by
  induction ts with
  | nil => rfl
  | cons t ts ih =>
    have hcontains : t.band.bare.containsY y = t.band.containsY y := rfl
    rw [List.map_cons, search, search, hcontains, ih]
    split
    · rfl
    · split <;> rfl

theorem findAtY?_bare (s : BandStore) (y : Float) : s.bare.findAtY? y = (s.findAtY? y).map Band.bare := by
  rw [findAtY?, findAtY?]
  split
  · rfl
  · have hpoint : partitionPoint (fun t : Slot => decide (t.band.y ≤ y)) s.bare.index =
        partitionPoint (fun t : Slot => decide (t.band.y ≤ y)) s.index := by
      rw [index_bare, partitionPoint_map]
      rfl
    rw [hpoint, index_bare, ← List.map_take, ← List.map_reverse, search_bare]

variable {kept : Fragment → Prop} {c : String} {s s' : BandStore}

theorem bare_framed (h : List.Forall₂ (Band.Framed kept c) s.bands s'.bands) : s'.bare = s.bare :=
  ext (Band.map_bare_framed h)

theorem fragments_framed (h : List.Forall₂ (Band.Framed kept c) s.bands s'.bands) :
    List.Forall₂ (Fragment.Framed kept c) (s.bands.map Band.fragment) (s'.bands.map Band.fragment) := by
  rw [List.forall₂_map_left_iff, List.forall₂_map_right_iff]
  exact h.imp fun _ _ hb => hb.fragment

theorem upsert_framed (h : List.Forall₂ (Band.Framed kept c) s.bands s'.bands) {b b' : Band}
    (hb : b.Framed kept c b') :
    List.Forall₂ (Band.Framed kept c) (s.upsert b).bands (s'.upsert b').bands := by
  rw [upsert_bands, upsert_bands]
  exact hb.insert h

end BandStore

end BandCanvas
