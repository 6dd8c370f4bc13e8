/-!
# UTF-8

Characters as bytes and bytes as characters.  Bytes that are no characters are replaced: every
longest beginning of a character that is broken off, and every byte that begins none, becomes one
replacement character.
-/

namespace ScopedSearch

namespace Text

def charBytes (c : Char) : List Nat := (String.singleton c).toUTF8.toList.map (·.toNat)

/-- What the first byte of a character says: how many bytes follow, and the range that the next one
must be in. -/
structure Lead where
  more : Nat
  lowest : Nat
  highest : Nat
  /-- The bits of the first byte that count. -/
  bits : Nat

/-- The first byte of a character of several bytes. -/
def lead? (b : Nat) : Option Lead :=
  if 0xC2 ≤ b && b ≤ 0xDF then some ⟨1, 0x80, 0xBF, b - 0xC0⟩
  else if b == 0xE0 then some ⟨2, 0xA0, 0xBF, 0⟩
  else if b == 0xED then some ⟨2, 0x80, 0x9F, 0xD⟩
  else if 0xE1 ≤ b && b ≤ 0xEF then some ⟨2, 0x80, 0xBF, b - 0xE0⟩
  else if b == 0xF0 then some ⟨3, 0x90, 0xBF, 0⟩
  else if 0xF1 ≤ b && b ≤ 0xF3 then some ⟨3, 0x80, 0xBF, b - 0xF0⟩
  else if b == 0xF4 then some ⟨3, 0x80, 0x8F, 4⟩
  else none

def replacement : Char := Char.ofNat 0xFFFD

/-- Where a decoder stands: between characters, or inside one with the bits so far. -/
inductive DecoderState where
  | between
  | inside (l : Lead)

/-- The characters of some bytes, with replacements. -/
def decodeFrom : DecoderState → List Nat → List Char
  | .between, [] => []
  | .inside _, [] => [replacement]
  | .between, b :: bs =>
    if b < 0x80 then Char.ofNat b :: decodeFrom .between bs
    else
      match lead? b with
      | some l => decodeFrom (.inside l) bs
      | none => replacement :: decodeFrom .between bs
  | .inside l, b :: bs =>
    if l.lowest ≤ b && b ≤ l.highest then
      let bits := l.bits * 64 + (b - 0x80)
      if l.more ≤ 1 then Char.ofNat bits :: decodeFrom .between bs
      else decodeFrom (.inside ⟨l.more - 1, 0x80, 0xBF, bits⟩) bs
    else if b < 0x80 then replacement :: Char.ofNat b :: decodeFrom .between bs
    else
      match lead? b with
      | some l => replacement :: decodeFrom (.inside l) bs
      | none => replacement :: replacement :: decodeFrom .between bs

def decodeUtf8 (bytes : List Nat) : List Char := decodeFrom .between bytes

end Text

end ScopedSearch
