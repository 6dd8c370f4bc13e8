import ScopedSearch.Value
import ScopedSearch.Double.Shortest
import ScopedSearch.Text.Printable

/-!
# Values in messages

How a value that takes the place of a text is shown in a message: a text as it is, and any other
value by its parts, the texts inside it quoted.
-/

namespace ScopedSearch

namespace Text

/-- A hexadecimal number of at least `width` digits. -/
def hexNumber (width n : Nat) : List Char :=
  let ds := Nat.toDigits 16 n
  List.replicate (width - ds.length) '0' ++ ds

/-- A character that is not printable, by its number. -/
def numbered (c : Char) : List Char :=
  let n := c.toNat
  if n < 0x100 then ['\\', 'x'] ++ hexNumber 2 n
  else if n < 0x10000 then ['\\', 'u'] ++ hexNumber 4 n
  else ['\\', 'U'] ++ hexNumber 8 n

/-- A character inside the quotes `quote`. -/
def quotedChar (quote c : Char) : List Char :=
  if c == quote || c == '\\' then ['\\', c]
  else if c == '\n' then ['\\', 'n']
  else if c == '\r' then ['\\', 'r']
  else if c == '\t' then ['\\', 't']
  else if isPrintable c then [c]
  else numbered c

/-- A text in single quotes, or in double quotes when it holds a single one and no double one. -/
def quoted (s : String) : List Char :=
  let cs := s.toList
  let quote := if cs.contains '\x27' && !cs.contains '"' then '"' else '\x27'
  quote :: (cs.flatMap (quotedChar quote) ++ [quote])

def numeral (n : Int) : List Char :=
  if n < 0 then '-' :: Nat.toDigits 10 n.natAbs else Nat.toDigits 10 n.natAbs

mutual

/-- A value inside a list or an object. -/
def inner : Value → List Char
  | .null => "None".toList
  | .bool true => "True".toList
  | .bool false => "False".toList
  | .int n => numeral n
  | .double x => x.text "inf" "nan"
  | .str s => quoted s
  | .arr [] => ['[', ']']
  | .arr (v :: vs) => '[' :: (inner v ++ innerItems vs)
  | .obj [] => ['\x7b', '\x7d']
  | .obj ((k, v) :: es) => '\x7b' :: (quoted k ++ ':' :: ' ' :: (inner v ++ innerEntries es))

def innerItems : List Value → List Char
  | [] => [']']
  | v :: vs => ',' :: ' ' :: (inner v ++ innerItems vs)

def innerEntries : Entries → List Char
  | [] => ['\x7d']
  | (k, v) :: es => ',' :: ' ' :: (quoted k ++ ':' :: ' ' :: (inner v ++ innerEntries es))

end

/-- A value as a message shows it. -/
def shown : Value → String
  | .str s => s
  | v => String.ofList (inner v)

end Text

end ScopedSearch
