import BandCanvas.Asset.Host
import BandCanvas.Asset.UrlPath

namespace BandCanvas

/-- The authority is what stands between two slashes and the path: a user, a host and a port. -/
structure Url where
  scheme : List Char
  authority : Option (List Char)
  path : List Char
  query : Option (List Char)
  fragment : Option (List Char)
  deriving DecidableEq, Repr

/-- What is to be read as an address: the text up to a question mark or a number sign, and what stands
behind them. -/
structure UrlText where
  main : List Char
  breaks : List Nat
  query : Option (List Char)
  fragment : Option (List Char)

namespace UrlText

def trim (s : List Char) : List Char :=
  let isOuter (c : Char) : Bool := c.toNat ≤ 0x20
  ((s.dropWhile isOuter).reverse.dropWhile isOuter).reverse

def isBreak (c : Char) : Bool :=
  c = '\t' || c = '\n' || c = '\r'

def withoutBreaks (s : List Char) : List Char :=
  s.filter fun c => !isBreak c

def breaksIn : List Char → List Nat
  | [] => []
  | c :: rest => if isBreak c then (withoutBreaks rest).length :: breaksIn rest else breaksIn rest

def cut (c : Char) (s : List Char) : List Char × Option (List Char) :=
  let head := s.takeWhile (· != c)
  (head, (s.drop head.length).tail?)

def ofText (text : String) : UrlText :=
  let (text, fragment) := cut '#' (trim text.toList)
  let (main, query) := cut '?' text
  ⟨withoutBreaks main, breaksIn main, query.map withoutBreaks, fragment.map withoutBreaks⟩

def isAtEnd (t : UrlText) : Bool :=
  t.main.isEmpty && t.query.isNone && t.fragment.isNone

end UrlText

namespace Url

def inUser (c : Char) : Bool :=
  UrlPath.isReserved c || "/:;=@[\\]^|".toList.contains c

def inQuery (special : Bool) (c : Char) : Bool :=
  c = ' ' || c = '"' || c = '#' || c = '<' || c = '>' || special && c = '\''

/-- Nothing is ordered under an address whose path is only a text, as in `mailto:`. -/
def isPlain (u : Url) : Bool :=
  u.authority.isNone && u.path.head? != some '/'

def withEnd (u : Url) (t : UrlText) : Url :=
  { u with
    query := t.query.map (Percent.encode (inQuery (Scheme.isSpecial u.scheme)))
    fragment := t.fragment.map (Percent.encode UrlPath.inFragment) }

/-- The address that a text leads to which says nothing about the path. -/
def samePath (u : Url) (t : UrlText) : Url :=
  if t.query.isNone then { u.withEnd t with query := u.query } else u.withEnd t

def port? (scheme : List Char) (text : List Char) : Option (List Char × List Char) :=
  let digits := text.takeWhile Char.isDigit
  let rest := text.drop digits.length
  let n := Decimal.natOfDigits digits
  if 65535 < n || !rest.head?.all (fun c => c = '/' || c = '\\') then none
  else if digits.isEmpty || Scheme.port? scheme = some n then some ([], rest)
  else some (':' :: (toString n).toList, rest)

def login (text : List Char) : List Char :=
  let name := text.takeWhile (· != ':')
  let password := (text.drop name.length).drop 1
  let written := Percent.encode inUser name ++
    if password.isEmpty then [] else ':' :: Percent.encode inUser password
  if written.isEmpty then [] else written ++ ['@']

def cutHost (inBrackets : Bool) : List Char → List Char × List Char
  | [] => ([], [])
  | c :: rest =>
    if c = ':' && !inBrackets then ([], c :: rest)
    else
      let (host, rest) := cutHost (c = '[' || inBrackets && c != ']') rest
      (c :: host, rest)

/-- Reads a user, a host and a port, and gives what is left. The host may be missing by itself. -/
def authority? (scheme head : List Char) (rest : UrlText) : Option (List Char × List Char) := do
  let hostAndPort := (head.reverse.takeWhile (· != '@')).reverse
  let user := head.take (head.length - hostAndPort.length - 1)
  let hasUser := hostAndPort.length < head.length
  let login := login user
  let (hostText, portText) := cutHost false hostAndPort
  if hasUser && user.isEmpty && hostAndPort.isEmpty && !rest.isAtEnd then none
  else if hostText.isEmpty then
    if Scheme.isSpecial scheme || !portText.isEmpty || !login.isEmpty then none else some ([], rest.main)
  else
    let host ← Host.parse? (Scheme.isSpecial scheme) hostText
    let (port, left) ← if portText.isEmpty then some ([], []) else port? scheme (portText.drop 1)
    some (login ++ host ++ port, left ++ rest.main)

/-- An address whose authority is at the start of a text. It has a path if its scheme is special or
something follows. -/
def ofAuthority? (scheme : List Char) (t : UrlText) : Option Url := do
  let head := t.main.takeWhile fun c => !Scheme.isSlash scheme c
  let (authority, rest) ← authority? scheme head { t with main := t.main.drop head.length }
  let path :=
    if Scheme.isSpecial scheme || !rest.isEmpty then
      let names := if rest.head?.any (Scheme.isSlash scheme) then rest.drop 1 else rest
      UrlPath.follow scheme t.breaks ['/'] names
    else []
  some (withEnd ⟨scheme, some authority, path, none, none⟩ t)

/-- An address given from a base of the same scheme. Its text may start with a backslash for a slash. -/
def relative? (base : Url) (t : UrlText) : Option Url :=
  let slashes := t.main.takeWhile fun c => c = '/' || c = '\\'
  if t.main.isEmpty then some (base.samePath t)
  else if ['/', '/'].isPrefixOf t.main then ofAuthority? base.scheme { t with main := t.main.drop 2 }
  else if 2 ≤ slashes.length then
    ofAuthority? base.scheme { t with main := t.main.drop slashes.length }
  else
    let start := if slashes.isEmpty then UrlPath.folder base.scheme base.path else []
    let start := if start.isEmpty then ['/'] else start
    let path := UrlPath.follow base.scheme t.breaks start (t.main.drop slashes.length)
    some (withEnd { base with path } t)

/-- The host of a file, where this machine is no host. -/
def fileHost? (text : List Char) : Option (List Char) :=
  if text.isEmpty then some []
  else (Host.parse? true text).map fun h => if h = "localhost".toList then [] else h

/-- The address of a file whose host is at the start of a text. A drive is on no host. -/
def ofFileHost? (t : UrlText) : Option Url := do
  let head := t.main.takeWhile fun c => c != '/' && c != '\\'
  let (host, rest) ←
    if UrlPath.isDrive head then some ([], t.main)
    else (fileHost? head).map fun host => (host, t.main.drop head.length)
  let names := if host.isEmpty then rest else rest.drop 1
  let host := if UrlPath.namesDrive Scheme.file t.breaks ['/'] names then [] else host
  some (withEnd ⟨Scheme.file, some host, UrlPath.follow Scheme.file t.breaks ['/'] names, none, none⟩ t)

def file? (base : Option Url) (t : UrlText) : Option Url :=
  let isSlash (c : Char) : Bool := c = '/' || c = '\\'
  let follow := UrlPath.follow Scheme.file t.breaks
  let plain (path : List Char) : Url := withEnd ⟨Scheme.file, some [], path, none, none⟩ t
  match t.main.takeWhile isSlash, base with
  | _ :: _ :: _, _ => ofFileHost? { t with main := t.main.drop 2 }
  | [_], some b =>
    if UrlPath.startsWithDrive (t.main.drop 1) then some (plain (follow [] t.main))
    else
      let first := UrlPath.firstName b.path
      if UrlPath.isPlainDrive first then
        some (plain (follow ('/' :: first) t.main))
      else some (withEnd { b with path := follow [] t.main } t)
  | [], some b =>
    if t.main.isEmpty then some (b.samePath t)
    else if UrlPath.startsWithDrive t.main then some (plain (follow ['/'] t.main))
    else
      let start := UrlPath.folder Scheme.file b.path
      some (withEnd { b with path := follow start t.main } t)
  | [_], none => some (plain (follow [] t.main))
  | [], none => some (plain (follow ['/'] t.main))

/-- An address with a scheme of its own. A base of that scheme may still supply the rest. -/
def absolute? (base : Option Url) (scheme : List Char) (t : UrlText) : Option Url :=
  let base := base.filter (·.scheme = scheme)
  if scheme = Scheme.file then file? base t
  else if Scheme.isSpecial scheme then
    let slashes := t.main.takeWhile (Scheme.isSlash scheme)
    match base with
    | some b =>
      if slashes.length < 2 then relative? b t
      else ofAuthority? scheme { t with main := t.main.drop slashes.length }
    | none => ofAuthority? scheme { t with main := t.main.drop slashes.length }
  else
    match t.main with
    | '/' :: '/' :: rest => ofAuthority? scheme { t with main := rest }
    | '/' :: rest =>
      let path := UrlPath.follow scheme t.breaks ['/'] rest
      some (withEnd ⟨scheme, none, path, none, none⟩ t)
    | text => some (withEnd ⟨scheme, none, Percent.encode (fun _ => false) text, none, none⟩ t)

def parse? (base : Option Url) (text : String) : Option Url :=
  let t := UrlText.ofText text
  match Scheme.cut? t.main with
  | some (scheme, rest) => absolute? base scheme { t with main := rest }
  | none => do
    let b ← base
    if t.main.isEmpty && t.query.isNone && t.fragment.isSome then some (b.samePath t)
    else if b.isPlain then none
    else if b.scheme = Scheme.file then file? (some b) t
    else relative? b t

/-- The address as text. A path that starts with two slashes is kept apart from a missing authority. -/
def text (u : Url) : String :=
  let authority := match u.authority with
    | some a => '/' :: '/' :: a
    | none => if ['/', '/'].isPrefixOf u.path then ['/', '.'] else []
  String.ofList (u.scheme ++ [':'] ++ authority ++ u.path ++ (u.query.elim [] ('?' :: ·)) ++
    (u.fragment.elim [] ('#' :: ·)))

/-- The file that an address on this machine names. A drive at its end is a folder. -/
def filePath? (u : Url) : Option String := do
  if u.scheme = Scheme.file && u.authority = some [] then
    let path ← Percent.decode? u.path
    let last := path.drop (path.length - 2)
    some (String.ofList (if UrlPath.isDrive last && 2 < path.length then path ++ ['/'] else path))
  else none

end Url

end BandCanvas
