import BandCanvas.Text.FileName

namespace BandCanvas

abbrev Place := List String

/-- All folders but the root, and the contents of all files. -/
structure FileTree where
  folders : List Place
  files : List (Place × List UInt8)
  deriving Repr

namespace FileTree

def way (p : Place) : List Place :=
  (List.range p.length).map fun n => p.take (n + 1)

def ofFolder (here : Place) (files : List (String × List UInt8)) : FileTree :=
  let placed := files.map fun f => (here ++ FileName.steps f.1, f.2)
  ⟨way here ++ placed.flatMap fun f => way f.1.dropLast, placed⟩

def isFolder (t : FileTree) (p : Place) : Bool :=
  p.isEmpty || t.folders.contains p

def holds (t : FileTree) (p : Place) : Bool :=
  t.isFolder p || (t.files.lookup p).isSome

def longestName : Nat := 255

def longestPath : Nat := 4095

/-- The place that names lead to. The last one need not exist. -/
def walk? (t : FileTree) (p : Place) : List String → Option Place
  | [] => some p
  | name :: names =>
    if !t.isFolder p || longestName < name.utf8ByteSize then none
    else if name = "" ∨ name = "." then walk? t p names
    else if name = ".." then walk? t p.dropLast names
    else walk? t (p ++ [name]) names

def start (here : Place) (path : String) : Place :=
  if FileName.isAbsolute path then [] else here

def place? (t : FileTree) (here : Place) (path : String) : Option Place :=
  if longestPath < path.utf8ByteSize then none
  else t.walk? (start here path) (FileName.names path)

def file? (t : FileTree) (here : Place) (path : String) : Option (List UInt8) := do
  t.files.lookup (← t.place? here path)

def text? (t : FileTree) (here : Place) (path : String) : Option String := do
  String.fromUTF8? ⟨(← t.file? here path).toArray⟩

/-- Where a file can be written: in a folder that exists, and not in the place of a folder. -/
def newFile? (t : FileTree) (here : Place) (path : String) : Option Place := do
  let p ← t.place? here path
  if t.isFolder p then none else some p

def makeFolders (t : FileTree) (p : Place) : List String → FileTree × Place
  | [] => (t, p)
  | ".." :: names => makeFolders t p.dropLast names
  | name :: names =>
    let p := p ++ [name]
    makeFolders (if t.holds p then t else { t with folders := t.folders ++ [p] }) p names

/-- Makes sure that there is a file of that path and that its folder exists. -/
def touch (t : FileTree) (here : Place) (path : String) : FileTree :=
  match FileName.target? path with
  | none => t
  | some (folders, name) =>
    let (t, p) := t.makeFolders (start here path) folders
    if t.holds (p ++ [name]) then t else { t with files := t.files ++ [(p ++ [name], [])] }

end FileTree

end BandCanvas
