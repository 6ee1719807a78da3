import BandCanvas.Text.Blank

namespace BandCanvas.Recording

structure Lines where
  ended : List (List Char)
  line : List Char

namespace Lines

/-- A line feed ends the line, together with a carriage return just before it. -/
def push (ls : Lines) (c : Char) : Lines :=
  if c = '\n' then
    match ls.line with
    | '\r' :: line => ⟨line :: ls.ended, []⟩
    | line => ⟨line :: ls.ended, []⟩
  else ⟨ls.ended, c :: ls.line⟩

def toList (ls : Lines) : List (List Char) :=
  ((ls.line :: ls.ended).map List.reverse).reverse

end Lines

def lines (text : String) : List (List Char) :=
  (text.toList.foldl Lines.push ⟨[], []⟩).toList

def messages (text : String) : List String :=
  ((lines text).filter fun l => !l.all Blank.isBlank).map String.ofList

end BandCanvas.Recording
