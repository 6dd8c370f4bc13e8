import ScopedSearch.Value
import ScopedSearch.Double.Shortest

/-!
# Writing JSON

A writer for JSON text in ASCII: a blank after every comma and colon, and every character outside
ASCII as its 16-bit units.  A list of values can also be written in pieces, one value at a time.
-/

namespace ScopedSearch

namespace Json

/-! ### Texts -/

def hexDigit (n : Nat) : Char :=
  if n < 10 then Char.ofNat ('0'.toNat + n) else Char.ofNat ('a'.toNat + (n - 10))

/-- A 16-bit unit as an escape. -/
def writeUnit (u : Nat) : List Char :=
  ['\\', 'u', hexDigit (u / 4096 % 16), hexDigit (u / 256 % 16), hexDigit (u / 16 % 16),
    hexDigit (u % 16)]

/-- The units of a character: one, or a high and a low one. -/
def writeUnits (c : Char) : List Char :=
  let n := c.toNat
  if n < 0x10000 then writeUnit n
  else writeUnit (0xD800 + (n - 0x10000) / 0x400) ++ writeUnit (0xDC00 + (n - 0x10000) % 0x400)

/-- A character inside quotes. -/
def writeChar (c : Char) : List Char :=
  if c == '"' then ['\\', '"']
  else if c == '\\' then ['\\', '\\']
  else if c == '\n' then ['\\', 'n']
  else if c == '\r' then ['\\', 'r']
  else if c == '\t' then ['\\', 't']
  else if c == '\x0c' then ['\\', 'f']
  else if c == '\x08' then ['\\', 'b']
  else if 0x20 ≤ c.toNat && c.toNat < 0x7F then [c]
  else writeUnits c

def writeText (s : String) : List Char := '"' :: (s.toList.flatMap writeChar ++ ['"'])

/-! ### Values -/

def writeNat (n : Nat) : List Char := Nat.toDigits 10 n

def writeInt (n : Int) : List Char :=
  if n < 0 then '-' :: writeNat n.natAbs else writeNat n.natAbs

mutual

def write : Value → List Char
  | .null => "null".toList
  | .bool true => "true".toList
  | .bool false => "false".toList
  | .int n => writeInt n
  | .double x => x.text "Infinity" "NaN"
  | .str s => writeText s
  | .arr [] => ['[', ']']
  | .arr (v :: vs) => '[' :: (write v ++ writeItems vs)
  | .obj [] => ['\x7b', '\x7d']
  | .obj ((k, v) :: es) => '\x7b' :: (writeText k ++ ':' :: ' ' :: (write v ++ writeEntries es))

/-- The items after the first, and the closing bracket. -/
def writeItems : List Value → List Char
  | [] => [']']
  | v :: vs => ',' :: ' ' :: (write v ++ writeItems vs)

/-- The entries after the first, and the closing brace. -/
def writeEntries : Entries → List Char
  | [] => ['\x7d']
  | (k, v) :: es => ',' :: ' ' :: (writeText k ++ ':' :: ' ' :: (write v ++ writeEntries es))

end

def render (v : Value) : String := String.ofList (write v)

/-! ### Lists in pieces -/

/-- The pieces of a list after the opening bracket: every value but the first brings its comma. -/
def laterChunks : List Value → List String
  | [] => ["]"]
  | v :: vs => String.ofList (',' :: write v) :: laterChunks vs

/-- A list as the pieces in which it is sent: the brackets, and one piece for each value. -/
def arrayChunks : List Value → List String
  | [] => ["[", "]"]
  | v :: vs => "[" :: render v :: laterChunks vs

end Json

end ScopedSearch
