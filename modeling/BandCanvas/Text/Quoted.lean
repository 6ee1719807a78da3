import BandCanvas.Text.Hidden

namespace BandCanvas.Quoted

def codePoint (c : Char) : List Char :=
  '\\' :: 'u' :: '\x7b' :: (Nat.toDigits 16 c.toNat ++ ['\x7d'])

def escape : Char → List Char
  | '\\' => ['\\', '\\']
  | '\'' => ['\\', '\'']
  | '\n' => ['\\', 'n']
  | '\r' => ['\\', 'r']
  | '\t' => ['\\', 't']
  | '\x00' => ['\\', '0']
  | c => if Hidden.isHidden c then codePoint c else [c]

/-- The character between single quotes, escaped where it cannot be seen. -/
def char (c : Char) : String :=
  String.ofList ('\'' :: escape c ++ ['\''])

end BandCanvas.Quoted
