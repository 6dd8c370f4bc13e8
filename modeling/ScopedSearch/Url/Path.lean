import ScopedSearch.Json.Reader
import ScopedSearch.Json.Writer
import ScopedSearch.Text.Split
import ScopedSearch.Text.Utf8

/-!
# Paths and escapes

The segments of a path, its dot segments, and the percent escapes in which characters are written
that have no place in a part of an address.
-/

namespace ScopedSearch

namespace Url

/-! ### Segments -/

def segments (cs : List Char) : List (List Char) := Text.splitAt (· == '/') cs

def joinSegments (ss : List (List Char)) : List Char := ['/'].intercalate ss

/-- One more segment after others, which are in reverse order: one dot stays, and two dots go back,
but not behind the leading slash. -/
def pushSegment (before : List (List Char)) (s : List Char) : List (List Char) :=
  if s == ['.'] then before
  else if s == ['.', '.'] then
    match before with
    | [] => []
    | [[]] => [[]]
    | _ :: rest => rest
  else s :: before

/-- A path with its dot segments resolved. -/
def withoutDots (cs : List Char) : List Char :=
  let ss := segments cs
  if ss.any fun s => s == ['.'] || s == ['.', '.'] then
    joinSegments (ss.foldl pushSegment []).reverse
  else cs

/-! ### Reading escapes -/

/-- The bytes of a text with its percent escapes decoded; a percent sign without two hexadecimal
digits stands for itself. -/
def percentBytes : List Char → List Nat
  | [] => []
  | '%' :: a :: b :: cs =>
    match Json.hexValue? a, Json.hexValue? b with
    | some x, some y => (16 * x + y) :: percentBytes cs
    | _, _ => Text.charBytes '%' ++ percentBytes (a :: b :: cs)
  | c :: cs => Text.charBytes c ++ percentBytes cs

def percentDecode (cs : List Char) : List Char := Text.decodeUtf8 (percentBytes cs)

/-! ### Writing escapes -/

/-- The places of an address that keep different characters. -/
inductive Place where
  | user
  | host
  | path
  | query
  | fragment
  /-- The address of a redirect as a whole. -/
  | redirect
deriving DecidableEq, Inhabited

namespace Place

/-- The visible characters that are escaped in a place. -/
def escaped : Place → List Char
  | user => ['"', '#', '<', '>', '?', '\x60', '\x7b', '\x7d', '/', ';', '=', '@', '[', '\\', ']',
      '^', '|']
  | host => ['#', '/', ':', '<', '>', '?', '@', '[', ']', '^']
  | path => ['"', '#', '<', '>', '?', '\x60', '\x7b', '\x7d']
  | query => ['"', '#', '<', '>']
  | fragment => ['"', '<', '>', '\x60']
  | redirect => ['"', '<', '>', '\\', '^', '\x60', '\x7b', '|', '\x7d']

/-- The characters that are written in a place as they are.  The percent sign is one of them, so
that escapes stay. -/
def keeps (p : Place) (c : Char) : Bool := '!' ≤ c && c ≤ '~' && !(p.escaped.contains c)

end Place

def percentByte (b : Nat) : List Char :=
  ['%', (Json.hexDigit (b / 16)).toUpper, (Json.hexDigit (b % 16)).toUpper]

/-- A text with percent escapes for what may not stand in a place. -/
def percentEncode (p : Place) (cs : List Char) : List Char :=
  cs.flatMap fun c => if p.keeps c then [c] else (Text.charBytes c).flatMap percentByte

end Url

end ScopedSearch
