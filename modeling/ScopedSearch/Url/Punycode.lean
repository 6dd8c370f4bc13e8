/-!
# Punycode

Texts of any characters in letters, digits and hyphens of ASCII: first the characters of ASCII, and
after a hyphen the others in the order of their code points, each by how far it lies from the one
before.  The distances are written in digits from 0 to 35, the lowest first, and a digit below the
threshold of its place is the last one.
-/

namespace ScopedSearch

namespace Punycode

def digit (d : Nat) : Char :=
  if d < 26 then Char.ofNat ('a'.toNat + d) else Char.ofNat ('0'.toNat + (d - 26))

/-- The value of a digit; a letter counts in both cases. -/
def digitValue? (c : Char) : Option Nat :=
  if c.isDigit then some (26 + (c.toNat - '0'.toNat))
  else if c.isAlpha then some (c.toLower.toNat - 'a'.toNat)
  else none

/-- The code point from which on characters are written by their distances. -/
def firstCode : Nat := 128

def firstBias : Nat := 72

/-- The threshold of the place with number `place`, from 1 on. -/
def threshold (bias place : Nat) : Nat :=
  if 36 * place ≤ bias then 1 else if bias + 26 ≤ 36 * place then 26 else 36 * place - bias

theorem one_le_threshold (bias place : Nat) : 1 ≤ threshold bias place := by
  unfold threshold
  split
  · exact Nat.le_refl 1
  · split <;> omega

/-- The bias for a distance that has been scaled down. -/
def biasOf (distance : Nat) : Nat :=
  if 455 < distance then 36 + biasOf (distance / 35) else 36 * distance / (distance + 38)
termination_by distance
decreasing_by omega

/-- The bias after a distance, when `count` characters are there. -/
def nextBias (distance count : Nat) (first : Bool) : Nat :=
  let scaled := if first then distance / 700 else distance / 2
  biasOf (scaled + scaled / count)

/-! ### Writing -/

/-- A number in digits, from a place on. -/
def writeNumber (bias place n : Nat) : List Char :=
  let t := threshold bias place
  if n < t then [digit n]
  else digit (t + (n - t) % (36 - t)) :: writeNumber bias (place + 1) ((n - t) / (36 - t))
termination_by n
decreasing_by
  have h := one_le_threshold bias place
  have h' := Nat.div_le_self (n - threshold bias place) (36 - threshold bias place)
  omega

/-- A writer among its characters: the distance from the last one written, the bias, how many
characters are written, and the digits so far. -/
structure Writer where
  distance : Nat
  bias : Nat
  count : Nat
  digits : List Char

/-- Passes one character while those with the code point `code` are written.  `basic` characters
were there at first. -/
def Writer.pass (basic code : Nat) (w : Writer) (c : Char) : Writer :=
  if c.toNat < code then { w with distance := w.distance + 1 }
  else if c.toNat == code then
    { distance := 0
      bias := nextBias w.distance (w.count + 1) (w.count == basic)
      count := w.count + 1
      digits := w.digits ++ writeNumber w.bias 1 w.distance }
  else w

/-- Writes the characters of a text that have one of the code points, which are in order and not
below `start`. -/
def writeCodes (cs : List Char) (basic : Nat) : Nat → List Nat → Writer → Writer
  | _, [], w => w
  | start, code :: codes, w =>
    let w := { w with distance := w.distance + (code - start) * (w.count + 1) }
    let w := cs.foldl (Writer.pass basic code) w
    writeCodes cs basic (code + 1) codes { w with distance := w.distance + 1 }

def insertCode (n : Nat) : List Nat → List Nat
  | [] => [n]
  | m :: ms => if n < m then n :: m :: ms else if n == m then m :: ms else m :: insertCode n ms

def isBasic (c : Char) : Bool := c.toNat < firstCode

def encode (cs : List Char) : List Char :=
  let basic := cs.filter isBasic
  let codes := (cs.filter (!isBasic ·)).foldr (fun c ns => insertCode c.toNat ns) []
  basic ++ (if basic.isEmpty then [] else ['-'])
    ++ (writeCodes cs basic.length firstCode codes ⟨0, firstBias, basic.length, []⟩).digits

/-! ### Reading -/

/-- A number at the front of a text, from a place on whose digits count `weight` times, and the
rest. -/
def readNumber (bias : Nat) : Nat → Nat → List Char → Option (Nat × List Char)
  | _, _, [] => none
  | place, weight, c :: cs => do
    let d ← digitValue? c
    let t := threshold bias place
    if d < t then return (d * weight, cs)
    else
      let (n, rest) ← readNumber bias (place + 1) (weight * (36 - t)) cs
      return (d * weight + n, rest)

/-- Puts in the characters that are written by their distances.  `code` and `position` tell where
the last one went. -/
def readCodes (bias code position : Nat) (first : Bool) (out cs : List Char) :
    Option (List Char) :=
  match cs with
  | [] => some out
  | c :: r =>
    match readNumber bias 1 1 (c :: r) with
    | none => none
    | some (distance, rest) =>
      let count := out.length + 1
      let code := code + (position + distance) / count
      let position := (position + distance) % count
      if code.isValidChar ∧ rest.length ≤ r.length then
        readCodes (nextBias distance count first) code (position + 1) false
          (out.insertIdx position (Char.ofNat code)) rest
      else none
termination_by cs.length
decreasing_by simp only [List.length_cons]; omega

def decode (cs : List Char) : Option (List Char) :=
  let digits := (cs.reverse.takeWhile (· != '-')).reverse
  let basic := cs.take (cs.length - digits.length - 1)
  readCodes firstBias firstCode 0 true basic digits

end Punycode

end ScopedSearch
