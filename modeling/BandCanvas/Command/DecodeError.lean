import BandCanvas.Number.Decimal
import BandCanvas.Text.Quoted

namespace BandCanvas

inductive DecodeError where
  | unexpectedEnd (offset : Nat)
  | invalidNumber (offset : Nat) (found : Char)
  | invalidLength (offset : Nat) (value : Float)
  | invalidColor (offset : Nat)
  deriving DecidableEq

namespace DecodeError

def offset : DecodeError → Nat
  | unexpectedEnd o | invalidNumber o _ | invalidLength o _ | invalidColor o => o

def message : DecodeError → String
  | unexpectedEnd o => s!"unexpected end of command stream at {o}"
  | invalidNumber o c => s!"invalid character {Quoted.char c} in number at {o}"
  | invalidLength o x => s!"invalid string length {Binary64.positional x} at {o}"
  | invalidColor o => s!"invalid color literal at {o}"

end DecodeError

end BandCanvas
