import BandCanvas.Picture.Bitmap

namespace BandCanvas

inductive ImageEntry where
  | pending
  | ready (picture : Bitmap)
  | broken
  deriving DecidableEq

namespace ImageEntry

def isPending : ImageEntry → Bool
  | pending => true
  | _ => false

def ofLoad : Option Bitmap → ImageEntry
  | some b => if b.isEmpty then broken else ready b
  | none => broken

end ImageEntry

/-- The entries, the newest path first. Paths are distinct. -/
structure ImageCache where
  entries : List (String × ImageEntry)
  deriving DecidableEq

namespace ImageCache

def empty : ImageCache :=
  ⟨[]⟩

def get? (path : String) (c : ImageCache) : Option ImageEntry :=
  c.entries.lookup path

/-- Adds a path that is not known yet. The answer tells whether to fetch it. -/
def beginFetch (path : String) (c : ImageCache) : Bool × ImageCache :=
  match c.get? path with
  | some _ => (false, c)
  | none => (true, ⟨(path, .pending) :: c.entries⟩)

def set (path : String) (entry : ImageEntry) (c : ImageCache) : ImageCache :=
  ⟨c.entries.map fun (p, e) => if p = path then (p, entry) else (p, e)⟩

/-- Takes a finished load, where nothing stands for a failure. The answer tells whether a picture can now be
drawn. -/
def complete (path : String) (result : Option Bitmap) (c : ImageCache) : Bool × ImageCache :=
  match c.get? path with
  | some .pending =>
    let entry := ImageEntry.ofLoad result
    (entry != .broken, c.set path entry)
  | _ => (false, c)

def ready? (path : String) (c : ImageCache) : Option Bitmap :=
  match c.get? path with
  | some (.ready b) => some b
  | _ => none

def pendingCount (c : ImageCache) : Nat :=
  c.entries.countP fun e => e.2.isPending

def size (c : ImageCache) : Nat :=
  c.entries.length

def isEmpty (c : ImageCache) : Bool :=
  c.entries.isEmpty

end ImageCache

end BandCanvas
