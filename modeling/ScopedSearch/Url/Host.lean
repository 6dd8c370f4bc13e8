import ScopedSearch.Url.Label
import ScopedSearch.Url.Path

/-!
# Hosts

The host of an address: four numbers, the parts of a long number in brackets, or a name.  A host
that looks like one of the first two must be one.
-/

namespace ScopedSearch

namespace Url

/-! ### Four numbers -/

/-- The runs of digits in a text, between its other characters. -/
def digitRuns (cs : List Char) : List Nat := (Text.splitAt (!Char.isDigit ·) cs).map List.length

/-- Whether a text looks like four numbers, with any character between two of them: a digit may
stand there too. -/
def looksLikeNumbers (cs : List Char) : Bool :=
  let runs := digitRuns cs
  let within := runs.foldl (fun total n => total + (n - 1) / 2) 0
  runs.length ≤ 4 && runs.all (0 < ·) && 4 ≤ runs.length + within

/-- Whether digits write a number from 0 to 255, without a zero in front. -/
def isOctet (ds : List Char) : Bool :=
  !ds.isEmpty && ds.all Char.isDigit && ds.length ≤ 3 && (ds == ['0'] || ds.head? != some '0')
    && Json.ofDigits ds ≤ 255

/-- Whether a text is four numbers with dots between them. -/
def isIpv4 (cs : List Char) : Bool :=
  let parts := Text.splitAt (· == '.') cs
  parts.length == 4 && parts.all isOctet

/-! ### Long numbers -/

def isHextet (cs : List Char) : Bool :=
  !cs.isEmpty && cs.length ≤ 4 && cs.all fun c => (Json.hexValue? c).isSome

/-- The parts of a long number; four numbers at its end count as two parts. -/
def hextets (cs : List Char) : Option (List (List Char)) :=
  let parts := Text.splitAt (· == ':') cs
  match parts.getLast? with
  | some last =>
    if last.contains '.' then
      if isIpv4 last then some (parts.dropLast ++ [['0'], ['0']]) else none
    else some parts
  | none => none

def withoutEnd (parts : List (List Char)) : List (List Char) := if parts == [[]] then [] else parts

/-- The parts before and after the first gap between two colons; none if there is no gap. -/
def splitGap : List (List Char) → Option (List (List Char) × List (List Char))
  | [] => none
  | first :: rest =>
    match rest.dropWhile (!List.isEmpty ·) with
    | _ :: next :: more =>
      some (withoutEnd (first :: rest.takeWhile (!List.isEmpty ·)), withoutEnd (next :: more))
    | _ => none

/-- Whether a text is a long number: eight parts, or fewer with one gap. -/
def isLongNumber (cs : List Char) : Bool :=
  match hextets cs with
  | none => false
  | some parts =>
    match splitGap parts with
    | some (before, after) =>
      before.all isHextet && after.all isHextet && before.length + after.length < 8
    | none => parts.length == 8 && parts.all isHextet

/-- Whether a text is a long number, with the name of a zone behind a percent sign or without. -/
def isIpv6 (cs : List Char) : Bool :=
  isLongNumber (cs.takeWhile (· != '%')) &&
    match cs.dropWhile (· != '%') with
    | [] => true
    | _ :: zone => !zone.isEmpty && !zone.contains '%'

/-! ### Hosts as they are sent -/

/-- What stands in brackets, if a text is in brackets. -/
def inBrackets? : List Char → Option (List Char)
  | '[' :: cs => if cs.getLast? == some ']' then some cs.dropLast else none
  | _ => none

/-- A host as it is sent, without brackets; none if it may not be sent. -/
def sentHost? (cs : List Char) : Option (List Char) :=
  if cs.isEmpty then some []
  else if looksLikeNumbers cs then if isIpv4 cs then some cs else none
  else
    match inBrackets? cs with
    | some inner => if isIpv6 inner then some inner else none
    | none =>
      if cs.all isAscii then some (percentEncode .host (cs.map Char.toLower)) else sentName? cs

end Url

end ScopedSearch
