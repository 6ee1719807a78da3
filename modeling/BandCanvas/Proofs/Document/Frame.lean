import BandCanvas.Proofs.Document.Pass

namespace BandCanvas

def BandHeader.band (source : String) (position : Nat) (h : BandHeader) : Band :=
  { id := h.id, kind := h.kind, editable := h.editable, height := h.height, x := h.x, y := h.y,
    source, offset := position }

def Command.isBand : Command → Bool
  | .band _ => true
  | _ => false

def Command.isReset : Command → Bool
  | .reset _ => true
  | _ => false

namespace Document

/-- The same bands on a page of the same scale. -/
structure SamePage (d d' : Document) : Prop where
  bands : d'.bands = d.bands
  scale : d'.scale = d.scale

theorem SamePage.trans {d d' d'' : Document} (h : d.SamePage d') (h' : d'.SamePage d'') :
    d.SamePage d'' :=
  ⟨h'.bands.trans h.bands, h'.scale.trans h.scale⟩

variable (host : WidgetHost)

theorem hideMenu_samePage (d : Document) : d.SamePage d.hideMenu.document := by
  rw [hideMenu]
  split <;> exact ⟨rfl, rfl⟩

theorem updateMenu_samePage (y : Float) (d : Document) : d.SamePage (d.updateMenu y).document := by
  rw [updateMenu]
  split
  · split
    · exact d.hideMenu_samePage
    · split <;> exact ⟨rfl, rfl⟩
  · exact d.hideMenu_samePage

theorem adjustScroll_samePage (d : Document) : d.SamePage (d.adjustScroll host).document := by
  rw [adjustScroll]
  split
  · simp only
    split <;> exact ⟨rfl, rfl⟩
  · exact ⟨rfl, rfl⟩

theorem edit_samePage (e : EditorCommand) (d : Document) : d.SamePage (d.edit host e).document := by
  cases e with
  | start field =>
    have hset : d.SamePage (d.withOverlay (d.overlay.start d.ratio field)).document := ⟨rfl, rfl⟩
    exact hset.trans (adjustScroll_samePage host _)
  | _ => exact ⟨rfl, rfl⟩

theorem prepareEditor_samePage (source : String) (position : Nat) (box : DeviceRect) (d : Document) :
    d.SamePage (d.prepareEditor source position box).document := by
  have hset : d.SamePage (d.withOverlay (d.overlay.prepare d.ratio box)).document := ⟨rfl, rfl⟩
  obtain ⟨hbands, hscale⟩ := hset.trans (updateMenu_samePage (box.y + box.height / 2) _)
  exact ⟨hbands, hscale⟩

/-- The bands that are stored after a command. -/
def bandsAfter (source : String) (position : Nat) (s : BandStore) : Command → BandStore
  | .reset _ => BandStore.empty
  | .band h => s.upsert (h.band source position)
  | _ => s

theorem perform_page (source : String) (position : Nat) (p : LivePass) (d : Document) (k : Command) :
    (d.perform host source position p k).1.document.bands = bandsAfter source position d.bands k ∧
      (d.perform host source position p k).1.document.scale = d.scale := by
  cases k with
  | reset hard =>
    have hmenu := d.hideMenu_samePage
    cases hard with
    | true => exact ⟨rfl, hmenu.scale⟩
    | false => exact ⟨rfl, hmenu.scale⟩
  | update =>
    rw [perform]
    split <;> exact ⟨rfl, rfl⟩
  | editor e =>
    cases e with
    | prepare box =>
      have h := d.prepareEditor_samePage source position box
      exact ⟨h.bands, h.scale⟩
    | debugBox box => exact ⟨rfl, rfl⟩
    | start field =>
      have h := d.edit_samePage host (.start field)
      exact ⟨h.bands, h.scale⟩
    | _ => exact ⟨rfl, rfl⟩
  | _ => exact ⟨rfl, rfl⟩

end Document

end BandCanvas
