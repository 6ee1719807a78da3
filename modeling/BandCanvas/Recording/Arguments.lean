import BandCanvas.Number.Literal

namespace BandCanvas

structure Arguments where
  stream : String
  output : String
  ratio : Option Float
  zoom : Option Float
  settings : String
  log : Option String
  deriving DecidableEq

inductive ArgumentError where
  | usage
  | missingValue (option : String)
  | notANumber (option : String)
  deriving DecidableEq, Repr

namespace ArgumentError

def message : ArgumentError → String
  | usage => "usage: epaper-replay <stream> <out.png> [--ratio N] [--zoom Z] [--settings FILE] [--log FILE]"
  | missingValue option => s!"{option} needs a value"
  | notANumber option => s!"invalid {option}"

end ArgumentError

namespace Arguments

inductive Key where
  | ratio
  | zoom
  | settings
  | log
  deriving DecidableEq, Repr

inductive Word where
  | help
  | key (key : Key)
  | place
  deriving DecidableEq, Repr

def Word.ofText : String → Word
  | "--ratio" => key .ratio
  | "--zoom" => key .zoom
  | "--settings" => key .settings
  | "--log" => key .log
  | "-h" | "--help" => help
  | _ => place

/-- What has been read so far. A later value of an option replaces an earlier one. -/
structure Draft where
  places : List String
  ratio : Option Float
  zoom : Option Float
  settings : String
  log : Option String

namespace Draft

def initial : Draft :=
  ⟨[], none, none, "settings.json", none⟩

def set? (key : Key) (value : String) (d : Draft) : Option Draft :=
  match key with
  | .ratio => (Literal.float? value).map fun x => { d with ratio := some x }
  | .zoom => (Literal.float? value).map fun x => { d with zoom := some x }
  | .settings => some { d with settings := value }
  | .log => some { d with log := some value }

def read (d : Draft) : List String → Except ArgumentError Draft
  | [] => .ok d
  | word :: words =>
    match Word.ofText word with
    | .place => read { d with places := d.places ++ [word] } words
    | .help => .error .usage
    | .key key =>
      match words with
      | [] => .error (.missingValue word)
      | value :: words =>
        match d.set? key value with
        | some d => read d words
        | none => .error (.notANumber word)

def finish (d : Draft) : Except ArgumentError Arguments :=
  match d.places with
  | [stream, output] => .ok ⟨stream, output, d.ratio, d.zoom, d.settings, d.log⟩
  | _ => .error .usage

end Draft

def parse (words : List String) : Except ArgumentError Arguments := do
  (← Draft.initial.read words).finish

end Arguments

end BandCanvas
