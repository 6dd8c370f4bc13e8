import ScopedSearch.Text.LowerCase
import ScopedSearch.Text.Split
import ScopedSearch.Url.Composed
import ScopedSearch.Url.Joining
import ScopedSearch.Url.Punycode

/-!
# Labels of host names

A host name is made of labels with dots between them.  A label with characters outside ASCII is sent
in Punycode behind a prefix of its own.  Not every label may be sent: the characters must be fit for
names, some of them only in certain surroundings, and letters that are written from right to left
must not meet others.
-/

namespace ScopedSearch

namespace Url

def isAscii (c : Char) : Bool := c.toNat < 128

/-! ### Characters in their surroundings -/

/-- These and the Persian digits may not meet in a label. -/
def arabicDigits : List (Nat × Nat) := [(0x660, 0x669)]

def persianDigits : List (Nat × Nat) := [(0x6F0, 0x6F9)]

/-- A character of a label with what is around it. -/
structure Surroundings where
  /-- What is before it, the nearest first. -/
  before : List Char
  char : Char
  after : List Char
  label : List Char

namespace Surroundings

def someIn (ranges : List (Nat × Nat)) (c : Option Char) : Bool :=
  c.any fun c => inRanges ranges c.toNat

/-- Whether the character may stand where it is. -/
def fit (s : Surroundings) : Bool :=
  let n := s.char.toNat
  let previous := s.before.head?
  let next := s.after.head?
  let labelHas (ranges : List (Nat × Nat)) : Bool := s.label.any fun c => inRanges ranges c.toNat
  if isNameChar s.char then true
  else if n == 0xB7 then previous == some 'l' && next == some 'l'
  else if n == 0x375 then someIn greekRanges next
  else if n == 0x5F3 || n == 0x5F4 then someIn hebrewRanges previous
  else if n == 0x30FB then labelHas japaneseRanges
  else if inRanges arabicDigits n then !labelHas persianDigits
  else if inRanges persianDigits n then !labelHas arabicDigits
  else if n == 0x200C then previous.any isVirama || Joining.meets s.before s.after
  else if n == 0x200D then previous.any isVirama
  else false

end Surroundings

/-- Whether all characters of a label, given those before them, are fit for it. -/
def fitAfter (label before : List Char) : List Char → Bool
  | [] => true
  | c :: cs => Surroundings.fit ⟨before, c, cs, label⟩ && fitAfter label (c :: before) cs

/-- Whether the hyphens of a label are neither at its ends nor where a prefix has them. -/
def hyphensFit (label : List Char) : Bool :=
  label.head? != some '-' && label.getLast? != some '-' && (label.drop 2).take 2 != ['-', '-']

/-! ### Directions -/

/-- How a character takes part in the direction of a label. -/
inductive Direction where
  | left
  | right
  | number
  | arabicNumber
  /-- A mark that goes with the character before it. -/
  | mark
  | neutral
deriving DecidableEq, Inhabited

namespace Direction

def arabicRanges : List (Nat × Nat) := [(0x660, 0x669), (0x10D30, 0x10D39)]

/-- Letters and signs without a direction, as ranges. -/
def neutralRanges : List (Nat × Nat) := [
  (0x2D, 0x2D), (0xB7, 0xB7), (0x2B9, 0x2BA), (0x2C6, 0x2CF), (0x2EC, 0x2EC), (0x375, 0x375),
  (0x200C, 0x200D), (0x2E2F, 0x2E2F), (0x30FB, 0x30FB), (0xA67F, 0xA67F), (0xA717, 0xA71F),
  (0xA788, 0xA788)]

/-- Marks that are written from left to right though they are not spacing. -/
def leftMarks : List Nat := [0xCBF, 0xCC6, 0x11A07, 0x11A08, 0x11C3F]

def ofChar (c : Char) : Direction :=
  if isRightToLeft c || c.toNat == 0x5F3 || c.toNat == 0x5F4 then right
  else if inRanges arabicRanges c.toNat then arabicNumber
  else if c.isDigit || inRanges persianDigits c.toNat then number
  else if isMark c then if isSpacing c || leftMarks.contains c.toNat then left else mark
  else if inRanges neutralRanges c.toNat then neutral
  else left

end Direction

/-- Whether a label keeps to one direction.  One with letters from right to left or Arabic numbers
begins with such a letter, has no letters from left to right and numbers of one kind, and ends with
a letter or a number. -/
def directionsFit (label : List Char) : Bool :=
  let ds := label.map Direction.ofChar
  if ds.contains .right || ds.contains .arabicNumber then
    ds.head? == some .right && !ds.contains .left
      && !(ds.contains .number && ds.contains .arabicNumber)
      && ((ds.filter (· != .mark)).getLast?.any (· != .neutral))
  else true

/-! ### Labels as they are sent -/

def isLabel (label : List Char) : Bool :=
  !label.isEmpty && isComposed label && hyphensFit label && !label.head?.any isMark
    && fitAfter label [] label && directionsFit label

def punycodePrefix : List Char := "xn--".toList

/-- A label of ASCII: what stands behind the prefix must write a label too. -/
def isAsciiLabel (label : List Char) : Bool :=
  if punycodePrefix.isPrefixOf label then
    let rest := label.drop punycodePrefix.length
    !rest.isEmpty && rest.getLast? != some '-' && (Punycode.decode rest).any isLabel
  else isLabel label

def labelLimit : Nat := 63

/-- A label as it is sent, if it may be sent. -/
def sentLabel? (label : List Char) : Option (List Char) :=
  let sent :=
    if label.all isAscii then if isAsciiLabel label then some label else none
    else if isLabel label then some (punycodePrefix ++ Punycode.encode label)
    else none
  sent.filter (·.length ≤ labelLimit)

def isDot (c : Char) : Bool := [0x2E, 0x3002, 0xFF0E, 0xFF61].contains c.toNat

/-- How many characters a name may have, apart from a dot at its end. -/
def nameLimit : Nat := 253

/-- A host name as it is sent, if it may be sent.  It may end with a dot. -/
def sentName? (name : List Char) : Option (List Char) := do
  let name := Text.lower name
  if nameLimit + 1 < name.length then none
  let labels := Text.splitAt isDot name
  let closed := labels.length > 1 && labels.getLast? == some []
  let sent ← (if closed then labels.dropLast else labels).mapM sentLabel?
  let name := ['.'].intercalate sent
  if name.length ≤ nameLimit then return if closed then name ++ ['.'] else name else none

end Url

end ScopedSearch
