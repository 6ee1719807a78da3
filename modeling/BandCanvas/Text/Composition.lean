import BandCanvas.Text.Composite
import BandCanvas.Text.Mark

namespace BandCanvas.Composition

/-- The number of a syllable by its final letter, which may be missing, its vowel and its initial letter. -/
def syllable? (c : Char) : Option Nat :=
  if 0xac00 ≤ c.toNat ∧ c.toNat < 0xac00 + 11172 then some (c.toNat - 0xac00) else none

def syllableLetters (n : Nat) : List Char :=
  let two := [Char.ofNat (0x1100 + n / 588), Char.ofNat (0x1161 + n % 588 / 28)]
  if n % 28 = 0 then two else two ++ [Char.ofNat (0x11a7 + n % 28)]

def syllableOf? (a b : Char) : Option Char :=
  let initial := a.toNat - 0x1100
  let vowel := b.toNat - 0x1161
  if 0x1100 ≤ a.toNat ∧ initial < 19 ∧ 0x1161 ≤ b.toNat ∧ vowel < 21 then
    some (Char.ofNat (0xac00 + 588 * initial + 28 * vowel))
  else
    match syllable? a with
    | some n =>
      if n % 28 = 0 ∧ 0x11a7 < b.toNat ∧ b.toNat < 0x11a7 + 28 then
        some (Char.ofNat (a.toNat + (b.toNat - 0x11a7)))
      else none
    | none => none

def parts : (depth : Nat) → Char → List Char
  | 0, c => [c]
  | depth + 1, c =>
    match syllable? c, Composite.pair? c with
    | some n, _ => syllableLetters n
    | none, some (letter, mark) => parts depth letter ++ [mark]
    | none, none => [c]

/-- Puts a mark in front of a text, behind the marks that come before it in the standard order. -/
def insertMark (mark : Char) : List Char → List Char
  | [] => [mark]
  | c :: rest =>
    if Mark.place c ≠ 0 ∧ Mark.place c < Mark.place mark then c :: insertMark mark rest
    else mark :: c :: rest

/-- Puts the marks behind each letter into their standard order. Marks in one place stay as they are. -/
def ordered (s : List Char) : List Char :=
  s.foldr (fun c rest => if Mark.place c = 0 then c :: rest else insertMark c rest) []

def pair? (a b : Char) : Option Char :=
  (syllableOf? a b).or (Composite.ofPair? a b)

/-- Puts marks on a letter. `kept` are those that stay apart; a mark in the place of one cannot get past it. -/
def joinTo (letter : Char) (kept : List Char) : List Char → List Char
  | [] => letter :: kept.reverse
  | c :: rest =>
    let isBlocked := kept.head?.any fun k => Mark.place c ≤ Mark.place k
    match if isBlocked then none else pair? letter c with
    | some joined => joinTo joined kept rest
    | none =>
      if Mark.place c = 0 then letter :: kept.reverse ++ joinTo c [] rest
      else joinTo letter (c :: kept) rest

def joined : List Char → List Char
  | [] => []
  | c :: rest => if Mark.place c = 0 then joinTo c [] rest else c :: joined rest

def compose (s : List Char) : List Char :=
  joined (ordered (s.flatMap (parts 3)))

end BandCanvas.Composition
