namespace BandCanvas

inductive Lifecycle where
  | closed | opening | opened | navigating | closing
  deriving DecidableEq, Repr

namespace Lifecycle

def canBecome : Lifecycle → Lifecycle → Bool
  | closed, opening | opened, opening => true
  | opening, opened | opening, closed => true
  | opened, navigating => true
  | navigating, opened | navigating, closed => true
  | opened, closing | closed, closing => true
  | closing, closed => true
  | _, _ => false

end Lifecycle

end BandCanvas
