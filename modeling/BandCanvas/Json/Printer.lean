import BandCanvas.Json.Basic
import BandCanvas.Number.Decimal
import BandCanvas.Text.Hex

namespace BandCanvas.Json

/-- The shortest text of a finite number: with an exponent from `10^16` up and below `10^-5`, else with a point.
-/
def numberText (x : Float) : List Char :=
  let d := Decimal.shortest .toEven x
  let ds := d.digits
  let first : Int := d.exponent + ds.length - 1
  let body :=
    if d.coefficient = 0 then ['0', '.', '0']
    else if first < -5 ∨ 16 ≤ first then
      let rest := if ds.length ≤ 1 then [] else '.' :: ds.drop 1
      let sign := if first < 0 then '-' else '+'
      ds.take 1 ++ rest ++ 'e' :: sign :: Nat.toDigits 10 first.natAbs
    else if 0 ≤ d.exponent then d.positional ++ ['.', '0']
    else d.positional
  Binary64.sign x ++ body

def escape (c : Char) : List Char :=
  match c with
  | '"' => ['\\', '"']
  | '\\' => ['\\', '\\']
  | '\x08' => ['\\', 'b']
  | '\x0c' => ['\\', 'f']
  | '\n' => ['\\', 'n']
  | '\r' => ['\\', 'r']
  | '\t' => ['\\', 't']
  | c => if c < ' ' then '\\' :: 'u' :: Hex.ofNat 4 c.toNat else [c]

def quoted (s : String) : List Char :=
  '"' :: s.toList.flatMap escape ++ ['"']

mutual

def compactText : Json → List Char
  | null => "null".toList
  | bool true => "true".toList
  | bool false => "false".toList
  | integer n => (toString n).toList
  | number x => if x.isFinite then numberText x else "null".toList
  | string s => quoted s
  | array js => '[' :: compactItems js ++ [']']
  | object ms => '\x7b' :: compactMembers ms ++ ['\x7d']

def compactItems : List Json → List Char
  | [] => []
  | [j] => compactText j
  | j :: js => compactText j ++ ',' :: compactItems js

def compactMembers : List (String × Json) → List Char
  | [] => []
  | [(n, j)] => quoted n ++ ':' :: compactText j
  | (n, j) :: ms => quoted n ++ ':' :: compactText j ++ ',' :: compactMembers ms

end

def compact (j : Json) : String :=
  String.ofList (compactText j)

def newLine (depth : Nat) : List Char :=
  '\n' :: List.replicate (2 * depth) ' '

mutual

def prettyText (depth : Nat) : Json → List Char
  | array [] => ['[', ']']
  | array js => '[' :: prettyItems (depth + 1) js ++ newLine depth ++ [']']
  | object [] => ['\x7b', '\x7d']
  | object ms => '\x7b' :: prettyMembers (depth + 1) ms ++ newLine depth ++ ['\x7d']
  | j => compactText j

def prettyItems (depth : Nat) : List Json → List Char
  | [] => []
  | [j] => newLine depth ++ prettyText depth j
  | j :: js => newLine depth ++ prettyText depth j ++ ',' :: prettyItems depth js

def prettyMembers (depth : Nat) : List (String × Json) → List Char
  | [] => []
  | [(n, j)] => newLine depth ++ quoted n ++ ':' :: ' ' :: prettyText depth j
  | (n, j) :: ms =>
    newLine depth ++ quoted n ++ ':' :: ' ' :: prettyText depth j ++ ',' :: prettyMembers depth ms

end

def pretty (j : Json) : String :=
  String.ofList (prettyText 0 j)

end BandCanvas.Json
