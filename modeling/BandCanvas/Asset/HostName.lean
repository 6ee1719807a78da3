import BandCanvas.Asset.HostLetter
import BandCanvas.Text.Composition
import BandCanvas.Text.WritingDirection
import BandCanvas.Text.Joining
import BandCanvas.Text.Punycode

namespace BandCanvas.HostName

def isForbidden (c : Char) : Bool :=
  c.toNat ≤ 0x20 || c.toNat = 0x7f || "%#/:<>?@[\\]^|".toList.contains c

def codeStart : List Char :=
  "xn--".toList

def isLetter (c : Char) : Bool :=
  HostLetter.isPlain c && !isForbidden c && c != '.'

def label? (text : List Char) : Option (List Char) :=
  if codeStart.isPrefixOf text then do
    let label ← Punycode.decode? (text.drop codeStart.length)
    let isShort := text.length ≤ codeStart.length + 2000
    if isShort && text.getLast? != some '-' && label.all isLetter && Composition.compose label = label then
      some label
    else none
  else some text

/-- Whether the nearest letter is one that `joins` holds of, with nothing but marks in between. -/
def reaches (joins : Joining → Bool) : List Char → Bool
  | [] => false
  | c :: rest =>
    joins (Joining.ofChar c) || Joining.ofChar c = .transparent && reaches joins rest

/-- Whether there is something to join, or to keep apart, at a joiner. The text before it comes
backwards. -/
def joinerFits (joiner : Char) (before after : List Char) : Bool :=
  before.head?.any Mark.isJoint ||
    joiner = '\u200c' && reaches Joining.joinsFollowing before && reaches Joining.joinsPreceding after

def joinersFit (before : List Char) : List Char → Bool
  | [] => true
  | c :: after =>
    (!(c = '\u200c' || c = '\u200d') || joinerFits c before after) && joinersFit (c :: before) after

def isLabel (label : List Char) : Bool :=
  !label.head?.any Mark.isMark && joinersFit [] label &&
    (label.all Punycode.isAscii || label.length ≤ 1000)

def needsDirection (c : Char) : Bool :=
  WritingDirection.ofChar c = .rightToLeft || WritingDirection.ofChar c = .arabicDigit

/-- Whether a label can be read in one direction, which is that of its first letter. -/
def fitsDirection : List Char → Bool
  | [] => true
  | c :: rest =>
    let backwards := (rest.reverse.map WritingDirection.ofChar).dropWhile (· = .mark)
    match WritingDirection.ofChar c with
    | .leftToRight =>
      backwards.all (fun d => d != .rightToLeft && d != .arabicDigit) &&
        backwards.head?.all fun d => d = .leftToRight || d = .digit
    | .rightToLeft =>
      backwards.all (· != .leftToRight) && backwards.head? != some .neutral &&
        !(backwards.contains .digit && backwards.contains .arabicDigit)
    | _ => false

def written (label : List Char) : List Char :=
  if label.all Punycode.isAscii then label else codeStart ++ Punycode.encode label

def ofText? (text : List Char) : Option (List Char) := do
  let letters := Composition.compose (← text.mapM HostLetter.read?).flatten
  let labels ← (letters.splitOn '.').mapM label?
  let isBothWays := labels.any (·.any needsDirection)
  if !letters.any isForbidden && labels.all isLabel && (!isBothWays || labels.all fitsDirection) then
    some (List.intercalate ['.'] (labels.map written))
  else none

end BandCanvas.HostName
