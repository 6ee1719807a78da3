import BandCanvas.Text.Percent

namespace BandCanvas

namespace Scheme

def file : List Char :=
  "file".toList

def port? (scheme : List Char) : Option Nat :=
  [("http".toList, 80), ("https".toList, 443), ("ws".toList, 80), ("wss".toList, 443),
    ("ftp".toList, 21)].lookup scheme

def isSpecial (scheme : List Char) : Bool :=
  scheme = file || (port? scheme).isSome

def isSlash (scheme : List Char) (c : Char) : Bool :=
  c = '/' || c = '\\' && isSpecial scheme

def cut? (s : List Char) : Option (List Char × List Char) :=
  let name := s.takeWhile (· != ':')
  let isName := name.all fun c => c.isAlphanum || c = '+' || c = '-' || c = '.'
  match name.head?, s.drop name.length with
  | some c, ':' :: rest => if c.isAlpha && isName then some (name.map Char.toLower, rest) else none
  | _, _ => none

end Scheme

namespace UrlPath

def inFragment (c : Char) : Bool :=
  c = ' ' || c = '"' || c = '<' || c = '>' || c.toNat = 0x60

def isReserved (c : Char) : Bool :=
  inFragment c || c = '#' || c = '?' || c = '\x7b' || c = '\x7d'

def isDrive : List Char → Bool
  | [letter, sign] => letter.isAlpha && (sign = ':' || sign = '|')
  | _ => false

def isPlainDrive (name : List Char) : Bool :=
  isDrive name && name.getLast? = some ':'

def startsWithDrive (text : List Char) : Bool :=
  isDrive (text.takeWhile fun c => c != '/' && c != '\\')

def firstName (path : List Char) : List Char :=
  (path.drop 1).takeWhile (· != '/')

def lastName (path : List Char) : List Char :=
  (path.reverse.takeWhile (· != '/')).reverse

/-- The path without its last name, which stays where it is a drive. -/
def folder (scheme path : List Char) : List Char :=
  let name := lastName path
  if scheme = Scheme.file && isPlainDrive name then path else path.take (path.length - name.length)

/-- Drops the slash at the end, but for the first slash and the one behind a drive. -/
def withoutSlash (path : List Char) : List Char :=
  let before := path.dropLast
  if path.getLast? = some '/' && before.contains '/' && !startsWithDrive (lastName before ++ ['/']) then
    before
  else path

def withSlash (path : List Char) : List Char :=
  if path.getLast? = some '/' then path else path ++ ['/']

def plainDots : List Char → List Char
  | '%' :: '2' :: e :: rest =>
    if e = 'e' || e = 'E' then '.' :: plainDots rest else '%' :: '2' :: e :: rest
  | c :: rest => c :: plainDots rest
  | [] => []

def names (scheme : List Char) : List Char → List (List Char)
  | [] => [[]]
  | c :: rest =>
    if Scheme.isSlash scheme c then [] :: names scheme rest
    else
      match names scheme rest with
      | name :: more => (c :: name) :: more
      | [] => [[c]]

/-- The path behind a drive goes on with a slash, even where the drive was given without one. -/
def openDrive (scheme path name : List Char) : List Char :=
  if scheme = Scheme.file && !name.isEmpty && isPlainDrive (path.drop 1) then path ++ ['/'] else path

def isDriveAt (scheme path name : List Char) : Bool :=
  scheme = Scheme.file && path.length = 1 && isDrive name

/-- Goes on from a path by one name. Where `isBroken` holds, a drive in front of the name stands by itself. -/
def step (scheme path name : List Char) (isBroken hasSlash : Bool) : List Char :=
  let path := openDrive scheme path name
  let dots := plainDots name
  let slash := if hasSlash then ['/'] else []
  if dots = ['.', '.'] then
    let above := folder scheme (withoutSlash path)
    if hasSlash then withSlash above else above
  else if dots = ['.'] then withSlash path
  else if isDriveAt scheme path name then path ++ name.take 1 ++ [':'] ++ slash
  else if isBroken && isDriveAt scheme path (name.take 2) && isPlainDrive (name.take 2) then
    path ++ name.take 2 ++ ['/'] ++ Percent.encode isReserved (name.drop 2) ++ slash
  else path ++ Percent.encode isReserved name ++ slash

/-- Whether a text of `left` characters is broken behind its second one; `breaks` are the numbers of
characters behind each break. -/
def isBrokenBy (breaks : List Nat) (left : Nat) : Bool :=
  2 < left && breaks.contains (left - 2)

def followNames (scheme : List Char) (breaks : List Nat) (path : List Char) (left : Nat) :
    List (List Char) → List Char
  | [] => path
  | [name] => step scheme path name (isBrokenBy breaks left) false
  | name :: more =>
    followNames scheme breaks (step scheme path name (isBrokenBy breaks left) true)
      (left - name.length - 1) more

/-- Follows a text from a path. The path of a file starts with one slash only. -/
def follow (scheme : List Char) (breaks : List Nat) (path text : List Char) : List Char :=
  let path := followNames scheme breaks path text.length (names scheme text)
  if scheme = Scheme.file then '/' :: path.dropWhile (· = '/') else path

/-- Whether a text names a drive at the start of the path at some step on its way. -/
def namesDriveOn (scheme : List Char) (breaks : List Nat) (path : List Char) (left : Nat) :
    List (List Char) → Bool
  | [] => false
  | name :: more =>
    isDriveAt scheme path name ||
      namesDriveOn scheme breaks (step scheme path name (isBrokenBy breaks left) !more.isEmpty)
        (left - name.length - 1) more

def namesDrive (scheme : List Char) (breaks : List Nat) (path text : List Char) : Bool :=
  namesDriveOn scheme breaks path text.length (names scheme text)

end UrlPath

end BandCanvas
