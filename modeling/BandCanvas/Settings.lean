import BandCanvas.Document.Basic
import BandCanvas.Json.Printer
import BandCanvas.Text.Blank

namespace BandCanvas

structure Settings where
  pageWidth : Float
  pageHeight : Float
  backgroundColor : String
  zoom : Float
  devicePixelRatio : Option Float
  redrawDelay : Nat
  assetsUrl : Option String
  defaultTag : String
  debugLogging : Bool
  deriving BEq

namespace Settings

def standard : Settings :=
  ⟨595, 842, "#FFFFFF", 1, none, 300, none, "text-widget", false⟩

def fieldNames : List String :=
  ["page_width", "page_height", "background_color", "zoom", "device_pixel_ratio",
    "redraw_debounce_ms", "public_assets_url", "default_widget_tag", "debug_logging"]

open Json.Written in
def read? (w : Json.Written) : Option Settings := do
  let field ← w.fields? fieldNames
  let pageWidth ← withDefault standard.pageWidth float? (field "page_width")
  let pageHeight ← withDefault standard.pageHeight float? (field "page_height")
  let backgroundColor ← withDefault standard.backgroundColor text? (field "background_color")
  let zoom ← withDefault standard.zoom float? (field "zoom")
  let devicePixelRatio ← withDefault none (optional? float?) (field "device_pixel_ratio")
  let redrawDelay ← withDefault standard.redrawDelay (nat? 18446744073709551615) (field "redraw_debounce_ms")
  let assetsUrl ← withDefault none (optional? text?) (field "public_assets_url")
  let defaultTag ← withDefault standard.defaultTag text? (field "default_widget_tag")
  let debugLogging ← withDefault false bool? (field "debug_logging")
  some ⟨pageWidth, pageHeight, backgroundColor, zoom, devicePixelRatio, redrawDelay, assetsUrl,
    defaultTag, debugLogging⟩

/-- A length or a zoom that can be used, or the standard one instead. -/
def usable (standard x : Float) : Float :=
  if x.isFinite && x > 0 then x else standard

def sanitize (s : Settings) : Settings :=
  { s with
    zoom := usable standard.zoom s.zoom
    pageWidth := usable standard.pageWidth s.pageWidth
    pageHeight := usable standard.pageHeight s.pageHeight }

/-- Settings from the text of their file. A missing or blank file holds the standard ones. -/
def load? (content : Option String) : Option Settings :=
  let text := content.getD ""
  if text.toList.all Blank.isBlank then some standard
  else ((Json.Written.parse? text).bind read?).map sanitize

def toJson (s : Settings) : Json :=
  .object [
    ("page_width", Json.ofFloat s.pageWidth),
    ("page_height", Json.ofFloat s.pageHeight),
    ("background_color", .string s.backgroundColor),
    ("zoom", Json.ofFloat s.zoom),
    ("device_pixel_ratio", s.devicePixelRatio.elim .null Json.ofFloat),
    ("redraw_debounce_ms", .integer s.redrawDelay),
    ("public_assets_url", s.assetsUrl.elim .null .string),
    ("default_widget_tag", .string s.defaultTag),
    ("debug_logging", .bool s.debugLogging)]

def save (s : Settings) : String :=
  s.toJson.pretty

def options (s : Settings) (displayRatio : Float) : DocumentOptions where
  pageWidth := s.pageWidth
  pageHeight := s.pageHeight
  background := (Color.ofHex? s.backgroundColor).getD Color.white
  zoom := s.zoom
  density := ⟨s.devicePixelRatio.getD displayRatio, 1⟩
  redrawDelay := s.redrawDelay
  defaultTag := s.defaultTag

end Settings

end BandCanvas
