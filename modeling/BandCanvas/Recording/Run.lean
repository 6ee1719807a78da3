import BandCanvas.FileTree
import BandCanvas.Recording.Player

namespace BandCanvas

structure Run where
  picture : Bitmap
  output : Place
  tree : FileTree

namespace Run

/-- Reads the settings, plays the recording and finds a place for the picture. Paths start in the folder `here`.
-/
def ofArguments (t : FileTree) (here : Place) (a : Arguments) : Except PlayError Run := do
  let settings := t.text? here a.settings
  let t := a.log.elim t (t.touch here)
  let p ← Player.ofRecording a settings (t.text? here a.stream)
  let b ← p.picture a (t.file? here)
  let output ← (t.newFile? here a.output).elim (.error (.unwritable a.output)) .ok
  pure ⟨b, output, t⟩

def leaves (r : Run) (here : Place) (path : String) : Bool :=
  (r.tree.place? here path).any fun p => p = r.output || r.tree.holds p

end Run

end BandCanvas
