import ScopedSearch.Double.Basic

/-!
# The shortest decimal of a number

The fewest digits that read back as the same number, and of those the nearest; then the layout:
positional while the decimal point stands close to the digits, with an exponent outside.
-/

namespace ScopedSearch

namespace Double

/-! ### The digits -/

/-- Whether the decimal `c · 10 ^ k` is rounded to the number `m · 2 ^ e`: it lies between the
midpoints to the two neighbours, or on one of them when `m` is even.  Below a power of two the
lower neighbour is half as far away. -/
def readsBack (m : Nat) (e : Int) (c : Nat) (k : Int) : Bool :=
  let low := if m == leastFull && leastExponent < e then 4 * m - 1 else 4 * m - 2
  let high := 4 * m + 2
  let shown := c * tenPow k * twoPow (2 - e)
  let bound (b : Nat) := b * twoPow (e - 2) * tenPow (-k)
  if m % 2 == 0 then bound low ≤ shown && shown ≤ bound high
  else bound low < shown && shown < bound high

/-- The number `m · 2 ^ e` in units of `10 ^ k`, as a fraction. -/
def inUnits (m : Nat) (e k : Int) : Nat × Nat :=
  (m * twoPow e * tenPow (-k), twoPow (-e) * tenPow k)

/-- The decimal exponent of the leading digit of `m · 2 ^ e`, for a positive `m`. -/
def leadingExponent (m : Nat) (e : Int) : Int :=
  let whole := m * twoPow e / twoPow (-e)
  if whole = 0 then -(decimalLength ((twoPow (-e) + m - 1) / m - 1) : Int)
  else (decimalLength whole : Int) - 1

/-- The neighbours of the number on the grid of `10 ^ k`, the nearer one first. -/
def neighbours (m : Nat) (e k : Int) : List Nat :=
  let (p, q) := inUnits m e k
  let near := roundHalfEven p q
  if p % q = 0 then [near] else if near = p / q then [near, near + 1] else [near, near - 1]

/-- A decimal of at most `n` digits that reads back, if there is one. -/
def withDigits (m : Nat) (e : Int) (n : Nat) : Option (Nat × Int) :=
  let k := leadingExponent m e - n + 1
  ((neighbours m e k).find? (readsBack m e · k)).map (·, k)

/-- The decimal with the fewest digits that reads back as `m · 2 ^ e`, for a positive `m`. -/
def shortest (m : Nat) (e : Int) : Nat × Int :=
  (((List.range 17).map (· + 1)).findSome? (withDigits m e)).getD
    (let k := leadingExponent m e - 16
     let (p, q) := inUnits m e k
     (roundHalfEven p q, k))

/-! ### The layout -/

def zeros (n : Nat) : List Char := List.replicate n '0'

def trimZeros (ds : List Char) : List Char := (ds.reverse.dropWhile (· == '0')).reverse

/-- A decimal exponent: a sign and at least two digits. -/
def exponentText (x : Int) : List Char :=
  let ds := Nat.toDigits 10 x.natAbs
  (if x < 0 then '-' else '+') :: (zeros (2 - ds.length) ++ ds)

/-- Digits with the decimal point after the first `point` of them: positional when the point is at
most 16 places to the right and at most 3 to the left of the digits. -/
def layOut (ds : List Char) (point : Int) : List Char :=
  if -4 < point ∧ point ≤ 16 then
    if point ≤ 0 then '0' :: '.' :: (zeros (-point).toNat ++ ds)
    else if ds.length ≤ point.toNat then ds ++ zeros (point.toNat - ds.length) ++ ['.', '0']
    else ds.take point.toNat ++ '.' :: ds.drop point.toNat
  else
    (match ds with
     | [] => []
     | [d] => [d]
     | d :: r => d :: '.' :: r) ++ 'e' :: exponentText (point - 1)

def magnitudeText (m : Nat) (e : Int) : List Char :=
  if m = 0 then ['0', '.', '0'] else
  let (c, k) := shortest m e
  let ds := Nat.toDigits 10 c
  layOut (trimZeros ds) (ds.length + k)

def signText (negative : Bool) : List Char := if negative then ['-'] else []

/-- The text of a number.  `infinity` and `undefined` are the words for what has no digits. -/
def text (infinity undefined : String) : Double → List Char
  | .finite n m e => signText n ++ magnitudeText m e
  | .infinite n => signText n ++ infinity.toList
  | .undefined => undefined.toList

end Double

end ScopedSearch
