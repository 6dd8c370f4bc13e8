/-!
# UTF-16

Characters as 16-bit units: a character beyond the first 65536 is a pair of a high and a low unit.
Half of a pair is no character, and is replaced.
-/

namespace ScopedSearch

namespace Text

def isHighUnit (u : Nat) : Bool := 0xD800 ≤ u && u ≤ 0xDBFF

def isLowUnit (u : Nat) : Bool := 0xDC00 ≤ u && u ≤ 0xDFFF

/-- The character of a high and a low unit. -/
def joinUnits (high low : Nat) : Char :=
  Char.ofNat (0x10000 + (high - 0xD800) * 0x400 + (low - 0xDC00))

/-- The character of a single unit; half of a pair has none, and becomes the replacement
character. -/
def unitChar (u : Nat) : Char :=
  if isHighUnit u || isLowUnit u then Char.ofNat 0xFFFD else Char.ofNat u

/-- The characters of some units. -/
def charsOfUnits : List Nat → List Char
  | [] => []
  | [u] => [unitChar u]
  | high :: low :: us =>
    if isHighUnit high && isLowUnit low then joinUnits high low :: charsOfUnits us
    else unitChar high :: charsOfUnits (low :: us)

end Text

end ScopedSearch
