import BandCanvas.Proofs.Document.Unattended

namespace BandCanvas

/-- What a host does with a document. -/
inductive DocumentOperation where
  | message (text : String)
  | paint (commands : String)
  | repaint
  | tick (now : Nat) (loads : List ImageLoad)
  | fontsLoaded (now : Nat)
  | pointer (y : Float)
  | zoom (zoom : Float)
  | page (width height rightMargin : Float)
  | editable (editable : Bool)
  | background (color : Color)
  | viewport (viewport : Option Viewport)
  | paging (paging : Paging)
  | reset

namespace DocumentOperation

def run (host : WidgetHost) (d : Document) : DocumentOperation → Outcome
  | .message text => d.handleMessage host text
  | .paint commands => d.paint host commands
  | .repaint => d.repaint
  | .tick now loads => (d.tick now loads).2
  | .fontsLoaded now => d.fontsLoaded now
  | .pointer y => d.pointerMoved y
  | .zoom z => (d.setZoom z).2
  | .page width height rightMargin => d.configurePage width height rightMargin
  | .editable b => d.setEditable b
  | .background c => { d with background := c }.quiet
  | .viewport v => { d with viewport := v }.quiet
  | .paging p => { d with paging := p }.quiet
  | .reset => d.reset

def loads : DocumentOperation → List ImageLoad
  | .tick _ ls => ls
  | _ => []

def resets : DocumentOperation → Bool
  | .reset => true
  | _ => false

def resizes : DocumentOperation → Bool
  | .zoom _ | .page .. => true
  | _ => false

end DocumentOperation

namespace Document

def run (host : WidgetHost) (d : Document) : List DocumentOperation → Outcome
  | [] => d.quiet
  | op :: ops => (op.run host d).andThen fun d => run host d ops

/-- One operation after another, with a host for each. -/
def course (d : Document) : List (WidgetHost × DocumentOperation) → Outcome
  | [] => d.quiet
  | (host, op) :: ops => (op.run host d).andThen fun d => course d ops

theorem tick_cases (now : Nat) (loads : List ImageLoad) (d : Document) :
    ∃ timer : RedrawTimer, timer.delay = d.timer.delay ∧
      ((d.tick now loads).2 = { d with images := (completeLoads loads d.images).2, timer }.repaint ∨
        (d.tick now loads).2 = { d with images := (completeLoads loads d.images).2, timer }.quiet) := by
  rw [tick]
  generalize completeLoads loads d.images = r
  obtain ⟨arrived, images⟩ := r
  have hdelay : ((if arrived then d.timer.arm now else d.timer).due now).2.delay = d.timer.delay := by
    rw [RedrawTimer.due]
    split <;> split <;> rfl
  dsimp only
  generalize (if arrived then d.timer.arm now else d.timer).due now = t at hdelay ⊢
  obtain ⟨due, timer⟩ := t
  cases due with
  | true => exact ⟨timer, hdelay, .inl rfl⟩
  | false => exact ⟨timer, hdelay, .inr rfl⟩

theorem hideMenu_effects (d : Document) :
    d.hideMenu.effects = d.menuBand.elim [] fun _ => [.event .menuHidden] := by
  rw [hideMenu]
  cases d.menuBand <;> rfl

theorem updateMenu_document (y : Float) (d : Document) :
    ∃ menuBand, (d.updateMenu y).document = { d with menuBand } := by
  rw [updateMenu]
  split
  · split
    · exact ⟨none, d.hideMenu_document⟩
    · split
      · exact ⟨d.menuBand, rfl⟩
      · exact ⟨_, rfl⟩
  · exact ⟨none, d.hideMenu_document⟩

theorem pointerMoved_document (y : Float) (d : Document) :
    ∃ menuBand, (d.pointerMoved y).document = { d with menuBand } := by
  rw [pointerMoved]
  split
  · exact updateMenu_document _ d
  · exact ⟨d.menuBand, rfl⟩

theorem handleMessage_stream {host : WidgetHost} {d : Document} {text : String} {stream : List Char}
    (htext : text.toList = 'D' :: ':' :: stream) : d.handleMessage host text = d.live host ⟨text, 2⟩ := by
  simp only [handleMessage, htext]

/-- All that a note changes is the paging, and what it says depends on nothing else. -/
theorem exists_noted (n : Notification) (p : Paging) :
    ∃ (paging : Paging) (effects : List Effect),
      ∀ d : Document, d.paging = p → d.notify n = ⟨{ d with paging }, effects⟩ := by
  simp only [notify]
  split
  · exact ⟨p, [], fun d hd => by rw [← hd]; rfl⟩
  · cases n.pageCount.filter (0 < ·) with
    | none =>
      cases n.pageNumber.filter (0 < ·) with
      | none => exact ⟨p, [], fun d hd => by rw [← hd]; rfl⟩
      | some number =>
        let said := p.updatePageNumber number
        exact ⟨said.2, [] ++ Effect.ofEvent? said.1, fun d hd => by subst hd; rfl⟩
    | some count =>
      let counted := p.updatePageCount count
      cases n.pageNumber.filter (0 < ·) with
      | none => exact ⟨counted.2, Effect.ofEvent? counted.1, fun d hd => by subst hd; rfl⟩
      | some number =>
        let said := counted.2.updatePageNumber number
        exact ⟨said.2, Effect.ofEvent? counted.1 ++ Effect.ofEvent? said.1, fun d hd => by subst hd; rfl⟩

/-- A reset hides the menu, takes the overlay off its widget, and drops bands and pictures. -/
theorem reset_eq (d : Document) :
    d.reset =
      ⟨{ d with
          menuBand := none
          overlay := d.overlay.unbound
          bands := BandStore.empty
          images := ImageCache.empty
          pending := none
          timer := d.timer.cancel },
        d.hideMenu.effects ++ Effect.widgets (d.overlay.tell [.detach, .setVisible false]) ++
          .dropLoads :: Effect.calls d.clearPage⟩ := by
  have hdocument : d.hideMenu.document = { d with menuBand := none } := d.hideMenu_document
  simp only [reset, Outcome.andThen, withOverlay, Overlay.reset, hdocument]
  rfl

variable (host : WidgetHost)

theorem run_cons (d : Document) (op : DocumentOperation) (ops : List DocumentOperation) :
    d.run host (op :: ops) =
      ⟨((op.run host d).document.run host ops).document,
        (op.run host d).effects ++ ((op.run host d).document.run host ops).effects⟩ :=
  rfl

theorem run_append (d : Document) (ops more : List DocumentOperation) :
    d.run host (ops ++ more) = (d.run host ops).andThen fun d => d.run host more := by
  induction ops generalizing d with
  | nil => rfl
  | cons op ops ih =>
    rw [List.cons_append, run_cons, run_cons, ih]
    simp only [Outcome.andThen, List.append_assoc]

theorem run_singleton (d : Document) (op : DocumentOperation) :
    d.run host [op] = op.run host d := by
  rw [run_cons]
  simp only [run, quiet, List.append_nil]

end Document

end BandCanvas
