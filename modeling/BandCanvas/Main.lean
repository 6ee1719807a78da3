import BandCanvas.Picture.Png
import BandCanvas.Recording.Player

namespace BandCanvas.Main

def fileText (path : String) : IO (Option String) := do
  try
    return some (← IO.FS.readFile path)
  catch _ =>
    return none

def fileBytes (path : String) : IO (Option (List UInt8)) := do
  try
    return some (← IO.FS.readBinFile path).toList
  catch _ =>
    return none

def report (e : PlayError) : IO UInt32 := do
  IO.eprintln s!"Error: {e.message}"
  return 1

/-- Names the log file by creating it, with the folders that lead to it. Nothing is ever written to
it. -/
def touchLog (log : Option String) : IO Unit := do
  if let some path := log then
    if let some (_, name) := FileName.target? path then
      let folder := FileName.folder path
      let file := s!"{folder}/{name}"
      try
        IO.FS.createDirAll folder
        IO.FS.writeFile file ((← fileText file).getD "")
      catch _ =>
        return ()

def writePicture (a : Arguments) (b : Bitmap) : IO UInt32 := do
  try
    IO.FS.writeBinFile a.output ⟨(Png.encode b).toArray⟩
    return 0
  catch _ =>
    report (.unwritable a.output)

def paint (a : Arguments) : IO UInt32 := do
  match Player.ofRecording a (← fileText a.settings) (← fileText a.stream) with
  | .error e => report e
  | .ok p =>
    touchLog a.log
    let mut files : List (String × List UInt8) := []
    for path in p.wantedFiles do
      if let some bytes ← fileBytes path then
        files := (path, bytes) :: files
    match p.picture a fun path => files.lookup path with
    | .error e => report e
    | .ok b => writePicture a b

end BandCanvas.Main

def main (words : List String) : IO UInt32 := do
  match BandCanvas.Arguments.parse words with
  | .error e => BandCanvas.Main.report (.arguments e)
  | .ok a => BandCanvas.Main.paint a
