import ScopedSearch.Text.Utf16

/-!
# Encodings of messages

A message is bytes, and does not say how its characters are written.  Where the first bytes of it
are zero tells: a message in JSON begins with a character of ASCII, which one byte is enough for.
A message in UTF-8 may begin with a byte order mark.
-/

namespace ScopedSearch

namespace Text

def byteOrderMark : Char := Char.ofNat 0xFEFF

/-- A text without the byte order mark that it may begin with. -/
def afterMark : List Char → List Char
  | [] => []
  | c :: cs => if c == byteOrderMark then cs else c :: cs

inductive ByteOrder where
  | big
  | little
deriving DecidableEq, Inhabited

/-- How the characters of a message are written. -/
inductive Encoding where
  | utf8
  | utf16 (o : ByteOrder)
  | utf32 (o : ByteOrder)
deriving DecidableEq, Inhabited

namespace Encoding

def ofBytes : List Nat → Encoding
  | 0 :: b :: _ :: _ :: _ => if b == 0 then utf32 .big else utf16 .big
  | _ :: 0 :: c :: d :: _ => if c == 0 && d == 0 then utf32 .little else utf16 .little
  | [0, _] => utf16 .big
  | [_, 0] => utf16 .little
  | _ => utf8

end Encoding

def ofBytes (o : ByteOrder) (bytes : List Nat) : Nat :=
  match o with
  | .big => bytes.foldl (fun n b => 256 * n + b) 0
  | .little => bytes.foldr (fun b n => 256 * n + b) 0

/-- Bytes as numbers of two bytes, if none is left over. -/
def numbers16 (o : ByteOrder) : List Nat → Option (List Nat)
  | [] => some []
  | a :: b :: bs => (numbers16 o bs).map (ofBytes o [a, b] :: ·)
  | [_] => none

/-- Bytes as numbers of four bytes, if none is left over. -/
def numbers32 (o : ByteOrder) : List Nat → Option (List Nat)
  | [] => some []
  | a :: b :: c :: d :: bs => (numbers32 o bs).map (ofBytes o [a, b, c, d] :: ·)
  | _ => none

def lastCode : Nat := 0x10FFFF

/-- The characters with some code points, if all are in range. -/
def charsOfCodes (codes : List Nat) : Option (List Char) :=
  if codes.all (· ≤ lastCode) then some (codes.map unitChar) else none

/-- The characters of a message, whose bytes are those of `text` in UTF-8; none if the bytes do not
make characters in the encoding of the message. -/
def decodeMessage (text : String) : Option (List Char) :=
  let bytes := text.toUTF8.toList.map (·.toNat)
  match Encoding.ofBytes bytes with
  | .utf8 => some (afterMark text.toList)
  | .utf16 o => (numbers16 o bytes).map charsOfUnits
  | .utf32 o => (numbers32 o bytes).bind charsOfCodes

end Text

end ScopedSearch
