namespace BandCanvas.FileName

def names (path : String) : List String :=
  path.splitOn "/"

def steps (path : String) : List String :=
  (names path).filter fun name => name != "" && name != "."

def isAbsolute (path : String) : Bool :=
  path.startsWith "/"

/-- The folders that lead to a file, and its own name. A path that ends by going up names no file. -/
def target? (path : String) : Option (List String × String) := do
  let name ← (steps path).getLast?
  if name = ".." then none else some ((steps path).dropLast, name)

def folder (path : String) : String :=
  (if isAbsolute path then "/" else "./") ++ String.intercalate "/" (steps path).dropLast

/-- The extension in a name is what follows its last dot, unless that dot comes first. -/
def extension? (path : String) : Option String := do
  let (_, name) ← target? path
  match name.toList.reverse.span (· != '.') with
  | (ext, _ :: _ :: _) => some (String.ofList ext.reverse)
  | _ => none

def isPng (path : String) : Bool :=
  (extension? path).map String.toLower == some "png"

end BandCanvas.FileName
