import ScopedSearch.Text.Blank
import ScopedSearch.Text.Digit
import ScopedSearch.Url.Host

/-!
# Addresses

An address as it is sent: the scheme and the host in small letters, without a number after the host
that the scheme implies, with a path without dots, and escaped where it must be.  Not every text is
an address.  One without a scheme or a host is relative, and leads somewhere only from a base.
-/

namespace ScopedSearch

namespace Url

/-! ### The number after a host -/

def digitLimit : Nat := 4300

/-- The natural number that digits of any script write, with single underscores between them. -/
def natural? (cs : List Char) : Option Nat := do
  let groups := Text.splitAt (· == '_') cs
  let ds ← groups.flatten.mapM Text.digit?
  if groups.any List.isEmpty || digitLimit < ds.length then none
  else return ds.foldl (fun n d => 10 * n + d) 0

/-- The number that a text writes, with blanks around it and a sign. -/
def number? (cs : List Char) : Option Int :=
  match Text.trim Text.isBlank cs with
  | '-' :: cs => (natural? cs).map fun n => -(n : Int)
  | '+' :: cs => (natural? cs).map Int.ofNat
  | cs => (natural? cs).map Int.ofNat

/-- The number that a scheme in small letters implies. -/
def impliedNumber? (scheme : List Char) : Option Int :=
  [("http", 80), ("https", 443), ("ws", 80), ("wss", 443), ("ftp", 21)].lookup
    (String.ofList scheme)

/-- The number after a host in an address with a scheme: what is written, but for the implied one;
`none` when the text is no number. -/
def sentNumber? (scheme cs : List Char) : Option (Option Int) :=
  if cs.isEmpty then some none
  else (number? cs).map fun n => if impliedNumber? scheme == some n then none else some n

/-! ### Addresses -/

/-- The parts of an address as they are sent. -/
structure Address where
  scheme : List Char := []
  user : List Char := []
  /-- The host; a long number is without its brackets. -/
  host : List Char := []
  number : Option Int := none
  path : List Char := []
  query : Option (List Char) := none
  fragment : Option (List Char) := none
deriving DecidableEq, Inhabited

namespace Address

def isSchemeChar (c : Char) : Bool := c.isAlphanum || c == '+' || c == '.' || c == '-'

/-- The scheme of an address, and what follows its colon.  The scheme may be empty. -/
def splitScheme (cs : List Char) : List Char × List Char :=
  match cs.takeWhile isSchemeChar, cs.dropWhile isSchemeChar with
  | [], ':' :: rest => ([], rest)
  | c :: name, ':' :: rest => if c.isAlpha then (c :: name, rest) else ([], cs)
  | _, _ => ([], cs)

/-- What is before the last user sign, and what is after it. -/
def splitUser (cs : List Char) : List Char × List Char :=
  let after := (cs.reverse.takeWhile (· != '@')).reverse
  (cs.take (cs.length - after.length - 1), after)

/-- The host in what follows the user, and its number.  Brackets end at the last closing one. -/
def splitHost (cs : List Char) : List Char × List Char :=
  let host :=
    if cs.head? == some '[' && cs.contains ']' then (cs.reverse.dropWhile (· != ']')).reverse
    else cs.takeWhile (· != ':')
  match cs.drop host.length with
  | ':' :: number => (host, number)
  | number => (host, number)

def endsHost (c : Char) : Bool := c == '/' || c == '?' || c == '#'

def endsPath (c : Char) : Bool := c == '?' || c == '#'

/-- What stands for the host, and the rest; nothing without two slashes. -/
def splitAuthority : List Char → List Char × List Char
  | '/' :: '/' :: cs => (cs.takeWhile (!endsHost ·), cs.dropWhile (!endsHost ·))
  | cs => ([], cs)

/-- The query after a path, if there is one, and the rest. -/
def splitQuery : List Char → Option (List Char) × List Char
  | '?' :: cs => (some (cs.takeWhile (· != '#')), cs.dropWhile (· != '#'))
  | cs => (none, cs)

/-- The fragment at the end of an address, if there is one. -/
def fragmentOf? : List Char → Option (List Char)
  | '#' :: cs => some cs
  | _ => none

/-- Whether a path may stand in an address without scheme and host. -/
def isRelativePath : List Char → Bool
  | '/' :: '/' :: _ => false
  | ':' :: _ => false
  | _ => true

def lengthLimit : Nat := 65536

/-- A control character of ASCII, which no address has. -/
def isControl (c : Char) : Bool := c.toNat < 0x20 || c.toNat == 0x7F

def ofList? (cs : List Char) : Option Address := do
  if lengthLimit < cs.length || cs.any isControl then none
  let (scheme, cs) := splitScheme cs
  let (authority, cs) := splitAuthority cs
  let path := cs.takeWhile (!endsPath ·)
  let (query, cs) := splitQuery (cs.dropWhile (!endsPath ·))
  let (user, place) := splitUser authority
  let (host, number) := splitHost place
  let host ← sentHost? host
  let number ← sentNumber? scheme number
  let rooted := !scheme.isEmpty || !user.isEmpty || !host.isEmpty || number.isSome
  if !rooted && !isRelativePath path then none
  return {
    scheme := scheme.map Char.toLower
    user := percentEncode .user user
    host, number
    path := percentEncode .path (if rooted then withoutDots path else path)
    query := query.map (percentEncode .query)
    fragment := (fragmentOf? cs).map (percentEncode .fragment) }

def ofText? (text : String) : Option Address := ofList? text.toList

/-! ### Relative addresses -/

def isAbsolute (a : Address) : Bool := !a.scheme.isEmpty && !a.host.isEmpty

/-- The path of an address, which is at least a slash. -/
def rootPath (a : Address) : List Char := if a.path.isEmpty then ['/'] else a.path

/-- An address as it is meant at a base: a relative one keeps its path and its query only. -/
def under (base a : Address) : Address :=
  if a.isAbsolute then a
  else
    let path := '/' :: a.rootPath.dropWhile (· == '/')
    { base with
      path := if base.isAbsolute then withoutDots path else path
      query := a.query }

/-! ### Writing -/

def renderNumber (n : Int) : List Char := ':' :: Json.writeInt n

def authority (a : Address) : List Char :=
  (if a.user.isEmpty then [] else a.user ++ ['@'])
    ++ (if a.host.contains ':' then '[' :: (a.host ++ [']']) else a.host)
    ++ (a.number.map renderNumber).getD []

def toList (a : Address) : List Char :=
  (if a.scheme.isEmpty then [] else a.scheme ++ [':'])
    ++ (if a.authority.isEmpty then [] else '/' :: '/' :: a.authority)
    ++ a.path
    ++ (a.query.map ('?' :: ·)).getD []
    ++ (a.fragment.map ('#' :: ·)).getD []

def render (a : Address) : String := String.ofList a.toList

end Address

end Url

end ScopedSearch
