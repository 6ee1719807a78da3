namespace BandCanvas

inductive Json where
  | null
  | bool (value : Bool)
  | integer (value : Int)
  | number (value : Float)
  | string (value : String)
  | array (items : List Json)
  | object (members : List (String × Json))

namespace Json

/-- The number as a value; one that is not finite has no JSON form and becomes null. -/
def ofFloat (x : Float) : Json :=
  if x.isFinite then number x else null

def member? (name : String) : Json → Option Json
  | object ms => ms.lookup name
  | _ => none

def text? : Json → Option String
  | string s => some s
  | _ => none

def float? : Json → Option Float
  | integer n => some (Float.ofInt n)
  | number x => some x
  | _ => none

/-- Sets a member in place, or adds it at the end. -/
def setMember (name : String) (value : Json) : List (String × Json) → List (String × Json)
  | [] => [(name, value)]
  | (n, v) :: ms => if n = name then (n, value) :: ms else (n, v) :: setMember name value ms

def path? (names : List String) (j : Json) : Option Json :=
  names.foldlM (fun j name => j.member? name) j

end Json

end BandCanvas
