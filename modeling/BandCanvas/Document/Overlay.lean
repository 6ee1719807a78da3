import BandCanvas.Command.Basic
import BandCanvas.Geometry.Rect
import BandCanvas.Json.Written

namespace BandCanvas

inductive WidgetAction where
  | attach (binding : Json)
  | configure (mode : EditMode)
  | place (box : CssRect)
  | setVisible (visible : Bool)
  | setValue (value : FieldValue)
  | alignText (left baseline : Float)
  | focus
  | update (content : EditorUpdate)
  | detach
  | showTooltip (text : String)

/-- What a host knows of its widgets. Failures are given as texts. -/
structure WidgetHost where
  create : String → Option (Except String Unit)
  attach : String → Json → Except String Unit
  bounds : String → Option CssRect → Option CssRect

/-- A widget that has been made, and the box it was last placed in. -/
structure Widget where
  tag : String
  box : Option CssRect
  deriving DecidableEq

inductive BindingError where
  | malformed
  | unregistered (tag : String)
  | unmade (tag cause : String)
  | rejected (tag cause : String)
  deriving DecidableEq, Repr

namespace BindingError

def message : BindingError → String
  | malformed => "invalid editor binding"
  | unregistered tag => s!"no widget registered for tag {tag}"
  | unmade tag cause => s!"widget {tag} failed to initialize: {cause}"
  | rejected tag cause => s!"widget {tag} rejected the binding: {cause}"

end BindingError

structure EditorBinding where
  band : Option Int
  box : Option DeviceRect
  mode : Option EditMode
  payload : Option Json

namespace EditorBinding

def empty : EditorBinding :=
  ⟨none, none, none, none⟩

def subDocument (b : EditorBinding) : Option SubDocument :=
  b.mode.bind EditMode.subDocument

def lengths : List String :=
  ["x", "y", "w", "h"]

def scaled (ratio : Float) : Json → Json
  | .object ms =>
    let lengthsScaled := lengths.foldl
      (fun ms name => match (ms.lookup name).bind Json.float? with
        | some x => Json.setMember name (Json.ofFloat (x / ratio)) ms
        | none => ms) ms
    .object (Json.setMember "ratio" (Json.ofFloat ratio) lengthsScaled)
  | j => j

def widgetTag? (binding : Json) : Option String :=
  (binding.path? ["binding", "widget", "tag"]).bind Json.text?

end EditorBinding

structure Overlay where
  defaultTag : String
  mounted : List Widget
  active : Option String
  binding : EditorBinding
  visible : Bool

/-- An overlay after something was done to it, with the actions that its widgets were sent. -/
abbrev OverlayStep := Overlay × List (String × WidgetAction)

namespace Overlay

def initial (defaultTag : String) : Overlay :=
  ⟨defaultTag, [], none, EditorBinding.empty, false⟩

def widget? (o : Overlay) : Option Widget :=
  o.active.bind fun tag => o.mounted.find? (·.tag = tag)

def tell (o : Overlay) (actions : List WidgetAction) : List (String × WidgetAction) :=
  o.widget?.elim [] fun w => actions.map fun a => (w.tag, a)

def unbound (o : Overlay) : Overlay :=
  { o with active := none, binding := EditorBinding.empty, visible := false }

def reset (o : Overlay) : OverlayStep :=
  (o.unbound, o.tell [.detach, .setVisible false])

def bind (host : WidgetHost) (tag : String) (binding : Json) (o : Overlay) :
    Option BindingError × OverlayStep :=
  match host.attach tag binding with
  | .error cause =>
    (some (.rejected tag cause), o, [(tag, .attach binding), (tag, .detach)])
  | .ok () =>
    (none,
      { o with active := some tag, binding := { o.binding with payload := some binding }, visible := true },
      [(tag, .attach binding), (tag, .setVisible true), (tag, .focus)])

/-- Makes the widget of a binding, unless it is mounted already, and binds it. -/
def mount (host : WidgetHost) (tag : String) (binding : Json) (o : Overlay) :
    Option BindingError × OverlayStep :=
  if o.mounted.any (·.tag = tag) then o.bind host tag binding
  else
    match host.create tag with
    | none => (some (.unregistered tag), o, [])
    | some (.error cause) => (some (.unmade tag cause), o, [])
    | some (.ok ()) => { o with mounted := ⟨tag, none⟩ :: o.mounted }.bind host tag binding

/-- Takes a new binding. After an error nothing is bound. -/
def attach (host : WidgetHost) (ratio : Float) (json : String) (o : Overlay) :
    Option BindingError × OverlayStep :=
  let (o, hidden) := o.reset
  match Json.parse? json with
  | none => (some .malformed, o, hidden)
  | some binding =>
    let tag := (EditorBinding.widgetTag? binding).getD o.defaultTag
    let (error, o, actions) := o.mount host tag (EditorBinding.scaled ratio binding)
    (error, o, hidden ++ actions)

def configure (mode : EditMode) (o : Overlay) : OverlayStep :=
  ({ o with binding := { o.binding with mode := some mode } }, o.tell [.configure mode])

def prepare (ratio : Float) (box : DeviceRect) (o : Overlay) : OverlayStep :=
  let css := CssRect.ofDevice ratio box
  let binding := { o.binding with box := some box }
  match o.widget? with
  | none => ({ o with binding }, [])
  | some w =>
    let mounted := o.mounted.map fun v => if v.tag = w.tag then { v with box := some css } else v
    ({ o with mounted, binding, visible := true }, o.tell [.place css, .setVisible true])

def start (ratio : Float) (field : EditorStart) (o : Overlay) : OverlayStep :=
  ({ o with binding := { o.binding with band := some field.band } },
    o.tell [.setValue field.value, .alignText (field.x / ratio) (field.baseline / ratio), .focus])

def update (content : EditorUpdate) (o : Overlay) : OverlayStep :=
  (o, o.tell [.update content])

/-- Ends editing. The widget stays the active one. -/
def finish (o : Overlay) : OverlayStep :=
  ({ o with binding := EditorBinding.empty, visible := false }, o.tell [.detach])

def bounds? (host : WidgetHost) (o : Overlay) : Option CssRect :=
  o.widget?.bind fun w => host.bounds w.tag w.box

/-- Shows a hint, unless its middle is not over the widget. -/
def hint (host : WidgetHost) (box : CssRect) (text : String) (o : Overlay) : OverlayStep :=
  let (x, y) := box.midpoint
  if (o.bounds? host).any (·.contains x y) then (o, o.tell [.showTooltip text]) else (o, [])

end Overlay

end BandCanvas
