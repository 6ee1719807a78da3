import BandCanvas.Color
import BandCanvas.Geometry.Rect
import BandCanvas.Command.DecodeError
import BandCanvas.Text.Cursor

namespace BandCanvas

structure Reader (α : Type) where
  run : Cursor → Except DecodeError α × Cursor
  follows : ∀ c : Cursor, c.Follows (run c).2

namespace Reader

variable {α β : Type}

protected def pure (a : α) : Reader α where
  run c := (.ok a, c)
  follows := Cursor.Follows.refl

protected def bind (r : Reader α) (f : α → Reader β) : Reader β where
  run c := match r.run c with
    | (.ok a, d) => (f a).run d
    | (.error e, d) => (.error e, d)
  follows c := by
    have h := r.follows c
    split
    next a d hr =>
      rw [hr] at h
      exact h.trans ((f a).follows d)
    next e d hr =>
      rw [hr] at h
      exact h

instance : Monad Reader where
  pure := Reader.pure
  bind := Reader.bind

@[simp] theorem run_pure (a : α) (c : Cursor) : (pure a : Reader α).run c = (.ok a, c) := rfl

theorem run_bind (r : Reader α) (f : α → Reader β) (c : Cursor) :
    (r >>= f).run c = match r.run c with
      | (.ok a, d) => (f a).run d
      | (.error e, d) => (.error e, d) := rfl

def fail (e : DecodeError) : Reader α where
  run c := (.error e, c)
  follows := Cursor.Follows.refl

def look (f : Cursor → α) : Reader α where
  run c := (.ok (f c), c)
  follows := Cursor.Follows.refl

def consume (f : List Char → List Char × List Char)
    (h : ∀ s, (f s).1 ++ (f s).2 = s) : Reader (List Char) where
  run c := (.ok (f c.rest).1, c.past (f c.rest).1 (f c.rest).2)
  follows c := Cursor.follows_past (h c.rest).symm

def position : Reader Nat :=
  look Cursor.offset

def peek : Reader (Option Char) :=
  look Cursor.peek

def take (n : Nat) : Reader (List Char) :=
  consume (fun s => (s.take n, s.drop n)) fun s => List.take_append_drop n s

def skip (n : Nat) : Reader Unit := do
  let _ ← take n

def next : Reader (Option Char) := do
  return (← take 1).head?

def remainder : Reader (List Char) :=
  consume (fun s => (s, [])) fun s => List.append_nil s

def eat (c : Char) : Reader Bool := do
  if (← peek) = some c then
    skip 1
    return true
  else
    return false

def skipPast (c : Char) : Reader Unit := do
  let _ ← consume (fun s => (s.takeWhile (· != c), s.dropWhile (· != c))) fun _ =>
    List.takeWhile_append_dropWhile
  skip 1

def chars (n : Nat) : Reader (List Char) := do
  let s ← take n
  if s.length < n then
    fail (.unexpectedEnd (← position))
  else
    return s

end Reader

/-- A numeral is a minus, digits, a point and more digits, each of which may be missing. -/
def Numeral.splitDigits (pointSeen : Bool) : List Char → List Char × List Char
  | [] => ([], [])
  | c :: s =>
    if c.isDigit || (c == '.' && !pointSeen) then
      let (t, r) := splitDigits (pointSeen || c == '.') s
      (c :: t, r)
    else ([], c :: s)

namespace Numeral

/-- Splits off the longest numeral at the start of a text. -/
def split : List Char → List Char × List Char
  | '-' :: s =>
    let (t, r) := splitDigits false s
    ('-' :: t, r)
  | s => splitDigits false s

theorem splitDigits_append (b : Bool) (s : List Char) :
    (splitDigits b s).1 ++ (splitDigits b s).2 = s := by
  induction s generalizing b with
  | nil => rfl
  | cons c s ih =>
    rw [splitDigits]
    split
    · simp [ih]
    · rfl

theorem split_append (s : List Char) : (split s).1 ++ (split s).2 = s := by
  unfold split
  split
  · simp [splitDigits_append]
  · exact splitDigits_append false _

/-- The number nearest to a numeral; without digits it is a zero. -/
def value (t : List Char) : Float :=
  let places := (t.dropWhile (· != '.')).drop 1
  Decimal.read (t.head? == some '-') ⟨Decimal.natOfDigits (t.filter Char.isDigit), -places.length⟩

end Numeral

namespace Reader

def number : Reader Float := do
  let t ← consume Numeral.split Numeral.split_append
  let offset ← position
  match ← next with
  | none => fail (.unexpectedEnd offset)
  | some c => if c = ',' ∨ c = ';' then return Numeral.value t else fail (.invalidNumber offset c)

/-- Reads a length and as many characters. -/
def payload : Reader String := do
  let offset ← position
  let n ← number
  if n ≥ 0 && Binary64.isIntegral n then
    return String.ofList (← chars (Binary64.toNat64 n))
  else
    fail (.invalidLength offset n)

/-- Reads a length, as many characters and the separator after them. -/
def string : Reader String := do
  let s ← payload
  skip 1
  return s

def color : Reader Color := do
  let offset ← position
  match Color.ofDigits? (← chars 6) with
  | some c =>
    skip 1
    return c
  | none => fail (.invalidColor offset)

def rect : Reader DeviceRect := do
  let x ← number
  let y ← number
  let width ← number
  let height ← number
  return ⟨x, y, width, height⟩

end Reader

end BandCanvas
