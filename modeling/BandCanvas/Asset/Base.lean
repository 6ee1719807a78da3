import BandCanvas.Asset.Url

namespace BandCanvas

inductive AddressError where
  | unreadable (base : String)
  | join (path base : String)
  | relative (path : String)
  deriving DecidableEq, Repr

namespace AddressError

def message : AddressError → String
  | unreadable base => s!"invalid assets url {base}"
  | join path base => s!"cannot join {path} to {base}"
  | relative path => s!"relative image path {path} without assets url"

end AddressError

structure AssetBase where
  url : Option Url
  deriving DecidableEq, Repr

namespace AssetBase

def ofText (text : Option String) : Except AddressError AssetBase :=
  match text with
  | none => .ok ⟨none⟩
  | some t => (Url.parse? none t).elim (.error (.unreadable t)) fun u => .ok ⟨some u⟩

def resolve (b : AssetBase) (path : String) : Except AddressError Url :=
  match b.url with
  | some u => (Url.parse? (some u) path).elim (.error (.join path u.text)) .ok
  | none => (Url.parse? none path).elim (.error (.relative path)) .ok

end AssetBase

end BandCanvas
