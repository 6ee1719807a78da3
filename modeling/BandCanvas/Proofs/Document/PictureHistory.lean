import BandCanvas.Proofs.Asset.Arrival
import BandCanvas.Proofs.Document.Rendering

namespace BandCanvas

namespace Document

theorem completeLoads_get? (ls : List ImageLoad) (c : ImageCache) (path : String) :
    (completeLoads ls c).2.get? path = (c.get? path).map fun e => e.after (ImageLoad.first? path ls) := by
  induction ls generalizing c with
  | nil => simp [completeLoads, ImageLoad.first?, ImageEntry.after_none]
  | cons l ls ih =>
    rw [completeLoads, ih, completeLoad, ImageCache.complete_get?, Option.map_map,
      ImageLoad.first?_cons path l ls]
    simp only [Function.comp_def, ImageEntry.after_after]

theorem completeLoads_paths (ls : List ImageLoad) (c : ImageCache) :
    (completeLoads ls c).2.entries.map Prod.fst = c.entries.map Prod.fst := by
  induction ls generalizing c with
  | nil => rfl
  | cons l ls ih => exact (ih _).trans (c.complete_paths l.path l.picture)

end Document

/-- A cache that knows the paths that were asked for, each of them asked for once, and keeps no picture
without pixels. -/
structure Fetched (c : ImageCache) (paths : List String) : Prop where
  known : c.entries.map Prod.fst = paths.reverse
  nodup : paths.Nodup
  named : "" ∉ paths
  drawable : ∀ path b, c.get? path = some (.ready b) → b.isEmpty = false

namespace Fetched

variable {c c' : ImageCache} {paths more : List String} {path : String}

theorem empty : Fetched ImageCache.empty [] where
  known := rfl
  nodup := .nil
  named := List.not_mem_nil
  drawable _ _ h := nomatch h

theorem get?_eq_none_iff (h : Fetched c paths) : c.get? path = none ↔ path ∉ paths := by
  rw [ImageCache.get?_eq_none_iff, h.known, List.mem_reverse]

theorem completeLoads (h : Fetched c paths) (ls : List ImageLoad) :
    Fetched (Document.completeLoads ls c).2 paths where
  known := (Document.completeLoads_paths ls c).trans h.known
  nodup := h.nodup
  named := h.named
  drawable path b hget := by
    rw [Document.completeLoads_get?] at hget
    obtain ⟨e, he, hafter⟩ := Option.map_eq_some_iff.1 hget
    apply ImageEntry.isEmpty_of_after hafter
    rintro rfl
    exact h.drawable path b he

theorem asked (h : Fetched c paths) (hasked : c.Asked c' more) (hnamed : "" ∉ more) :
    Fetched c' (paths ++ more) := by
  constructor
  · rw [hasked.entries, List.map_append, h.known, List.map_map, List.reverse_append]
    exact congrArg (· ++ paths.reverse) (List.map_id _)
  · apply List.nodup_append.2
    refine ⟨h.nodup, hasked.nodup, ?_⟩
    rintro p hp q hq rfl
    exact h.get?_eq_none_iff.1 (hasked.unknown p hq) hp
  · intro hmem
    exact (List.mem_append.1 hmem).elim h.named hnamed
  · intro path b hget
    rw [hasked.get?_eq] at hget
    split at hget
    · cases hget
    · exact h.drawable path b hget

end Fetched

namespace Document

variable (host : WidgetHost) {d : Document} {op : DocumentOperation} {ops : List DocumentOperation}
  {paths : List String} {path : String} {e : ImageEntry}

/-- All pictures that are drawn have arrived before the painting starts, and stay where they are. -/
theorem operation_draws_ready (op : DocumentOperation) (d : Document) {b : Bitmap}
    {source target : DeviceRect}
    (h : .call (.drawImage b source target) ∈ (op.run host d).effects) :
    ∃ path, (completeLoads op.loads d.images).2.ready? path = some b ∧
      (op.run host d).document.images.ready? path = some b := by
  cases hop : op.resets with
  | false =>
    have hrendered := operation_rendered host d hop
    have hmade : .drawImage b source target ∈ Effect.made (op.run host d).effects :=
      List.mem_filterMap.2 ⟨_, h, rfl⟩
    obtain ⟨path, hready⟩ := hrendered.arrived b source target hmade
    exact ⟨path, hready, (hrendered.asked.toExtends.ready path).trans hready⟩
  | true =>
    cases op with
    | reset =>
      change _ ∈ d.reset.effects at h
      rw [reset_eq] at h
      simp only [List.mem_append, List.mem_cons] at h
      rcases h with (hhidden | htold) | hdropped | hcleared
      · cases d.isUnseen_hideMenu _ hhidden
      · cases Effect.isUnseen_widgets _ _ htold
      · cases hdropped
      · obtain ⟨c, hc, heq⟩ := List.mem_map.1 hcleared
        cases heq
        cases d.isPicture_clearPage _ hc
    | _ => cases hop

theorem operation_fetched (hop : op.resets = false) (h : Fetched d.images paths) :
    Fetched (op.run host d).document.images (paths ++ Effect.asked (op.run host d).effects) := by
  have hrendered := operation_rendered host d hop
  exact (h.completeLoads op.loads).asked hrendered.asked hrendered.named

theorem run_fetched (hops : ∀ op ∈ ops, op.resets = false) (h : Fetched d.images paths) :
    Fetched (d.run host ops).document.images (paths ++ Effect.asked (d.run host ops).effects) := by
  induction ops generalizing d paths with
  | nil =>
    rw [← List.append_nil paths] at h
    exact h
  | cons op ops ih =>
    obtain ⟨hop, htail⟩ := List.forall_mem_cons.1 hops
    rw [run_cons, Effect.asked_append, ← List.append_assoc]
    exact ih htail (operation_fetched host hop h)

theorem operation_keeps (hop : op.resets = false) (h : d.images.get? path = some e) :
    (op.run host d).document.images.get? path = some (e.after (ImageLoad.first? path op.loads)) := by
  have hasked := (operation_rendered host d hop).asked
  have hloaded := completeLoads_get? op.loads d.images path
  rw [h] at hloaded
  rw [hasked.get?_eq, if_neg, hloaded]
  · rfl
  · intro hmem
    rw [hasked.unknown path hmem] at hloaded
    cases hloaded

/-- What stands for a path depends on the first load that came for it. -/
theorem run_keeps (hops : ∀ op ∈ ops, op.resets = false) (h : d.images.get? path = some e) :
    (d.run host ops).document.images.get? path =
      some (e.after (ImageLoad.first? path (ops.flatMap DocumentOperation.loads))) := by
  induction ops generalizing d e with
  | nil =>
    rw [← e.after_none] at h
    exact h
  | cons op ops ih =>
    obtain ⟨hop, htail⟩ := List.forall_mem_cons.1 hops
    rw [run_cons, List.flatMap_cons, ImageLoad.first?_append, ← ImageEntry.after_after]
    exact ih htail (operation_keeps host hop h)

theorem operation_meets (hop : op.resets = false) (h : d.images.get? path = none) :
    (op.run host d).document.images.get? path =
      if path ∈ Effect.asked (op.run host d).effects then some .pending else none := by
  rw [(operation_rendered host d hop).asked.get?_eq, completeLoads_get?, h]
  rfl

theorem images_of_fresh {past : List DocumentOperation}
    (hpast : past = [] ∨ ∃ before, past = before ++ [.reset]) (options : DocumentOptions) :
    ((create options).document.run host past).document.images = ImageCache.empty := by
  rcases hpast with rfl | ⟨before, rfl⟩
  · rfl
  · rw [run_append, Outcome.andThen, run_singleton]
    exact congrArg (fun o => o.document.images) (reset_eq _)

/-- No picture is fetched twice: a path that is asked for waits for its first load, and is ready or broken then.
-/
theorem pictures_fetched_once (host : WidgetHost) (options : DocumentOptions)
    (past ops : List DocumentOperation) (hpast : past = [] ∨ ∃ before, past = before ++ [.reset])
    (hops : ∀ op ∈ ops, op.resets = false) :
    let d := ((create options).document.run host past).document
    let asked := Effect.asked (d.run host ops).effects
    let pictures := (d.run host ops).document.images
    (asked.Nodup ∧ "" ∉ asked ∧ pictures.entries.map Prod.fst = asked.reverse) ∧
    (∀ path b, pictures.ready? path = some b → 0 < b.width ∧ 0 < b.height) ∧
    (∀ before op after path, ops = before ++ op :: after →
      let e := (d.run host before).document
      e.images.get? path = none →
      (op.run host e).document.images.get? path =
        if path ∈ Effect.asked (op.run host e).effects then some .pending else none) ∧
    (∀ before after path, ops = before ++ after →
      let e := (d.run host before).document
      let load := ImageLoad.first? path (after.flatMap DocumentOperation.loads)
      (e.images.get? path = some .pending →
        pictures.get? path = some (load.elim .pending fun l => .ofLoad l.picture)) ∧
      ∀ entry, e.images.get? path = some entry → entry ≠ .pending →
        pictures.get? path = some entry) ∧
    ∀ (op : DocumentOperation) b source target,
      let e := (d.run host ops).document
      .call (.drawImage b source target) ∈ (op.run host e).effects →
      ∃ path, (completeLoads op.loads e.images).2.ready? path = some b ∧
        (op.run host e).document.images.ready? path = some b := by
  intro d asked pictures
  have hempty : Fetched d.images [] := by
    rw [images_of_fresh host hpast options]
    exact .empty
  have hfetched : Fetched pictures asked := run_fetched host hops hempty
  refine ⟨⟨hfetched.nodup, hfetched.named, hfetched.known⟩, ?_, ?_, ?_, ?_⟩
  · intro path b hready
    have hpixels := hfetched.drawable path b (ImageCache.ready?_eq_some.1 hready)
    simp only [Bitmap.isEmpty, Bool.or_eq_false_iff, decide_eq_false_iff_not] at hpixels
    exact ⟨Nat.pos_of_ne_zero hpixels.1, Nat.pos_of_ne_zero hpixels.2⟩
  · intro before op after path hsplit e hunknown
    have hop : op.resets = false := by
      apply hops
      rw [hsplit]
      exact List.mem_append_right _ List.mem_cons_self
    exact operation_meets host hop hunknown
  · intro before after path hsplit e load
    have hafter : ∀ op ∈ after, op.resets = false := by
      intro op hop
      apply hops
      rw [hsplit]
      exact List.mem_append_right _ hop
    have hpictures : (e.run host after).document.images = (d.run host ops).document.images := by
      rw [hsplit, run_append]
      rfl
    constructor
    · intro hpending
      have hkept := run_keeps host hafter hpending
      rw [hpictures, ImageEntry.pending_after] at hkept
      exact hkept
    · intro entry hentry hne
      have hkept := run_keeps host hafter hentry
      rw [hpictures, ImageEntry.after_of_ne_pending hne] at hkept
      exact hkept
  · intro op b source target e hdrawn
    exact operation_draws_ready host op e hdrawn

def logo : Fragment :=
  ⟨"I1,8,logo.png,0,0,50,100,2,FF,1,L,1,T;", 0⟩

theorem decoded_logo :
    logo.decoded =
      [(.ok (.image ⟨1, "logo.png", ⟨0, 0, 50, 100⟩, .fillFrame, .left, .top⟩), ⟨38, some ';', []⟩)] :=
  Fragment.decoded_eq (.next rfl (.done rfl)) rfl

theorem paint_logo (host : WidgetHost) {d : Document} (h : d.images = ImageCache.empty) :
    d.paint host logo.source =
      ⟨{ d with images := ⟨[("logo.png", .pending)]⟩ },
        Effect.calls PaintState.initial.styleCalls ++ [.request "logo.png"]⟩ := by
  have hlive : d.paint host logo.source = d.live host logo := rfl
  rw [hlive, live_eq_runSteps, decoded_logo]
  cases d
  cases h
  rfl

theorem pictures_fetched_once_logo :
    let host : WidgetHost := ⟨fun _ => none, fun _ _ => .ok (), fun _ box => box⟩
    let d := ((create DocumentOptions.standard).document.run host [.repaint, .reset]).document
    let twice := [⟨"logo.png", some (Bitmap.blank 1 1)⟩, ⟨"logo.png", some (Bitmap.blank 2 2)⟩]
    (d.run host [.paint logo.source]).document.images.get? "logo.png" = some .pending ∧
      (d.run host [.paint logo.source, .tick 0 twice]).document.images.get? "logo.png" =
        some (.ready (Bitmap.blank 1 1)) := by
  intro host d twice
  have hpaint : (d.run host [.paint logo.source]).document.images.get? "logo.png" = some .pending := by
    rw [run_singleton, DocumentOperation.run, paint_logo host rfl]
    rfl
  have hops : ∀ op ∈ [DocumentOperation.paint logo.source, .tick 0 twice], op.resets = false :=
    List.forall_mem_cons.2 ⟨rfl, List.forall_mem_singleton.2 rfl⟩
  obtain ⟨-, -, -, hkept, -⟩ :=
    pictures_fetched_once host DocumentOptions.standard [.repaint, .reset]
      [.paint logo.source, .tick 0 twice] (.inr ⟨[.repaint], rfl⟩) hops
  obtain ⟨hwaited, -⟩ := hkept [.paint logo.source] [.tick 0 twice] "logo.png" rfl
  exact ⟨hpaint, hwaited hpaint⟩

end Document

end BandCanvas
