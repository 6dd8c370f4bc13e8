/-!
# Binary floating-point numbers, exactly

A number of the binary64 format as its sign, mantissa and exponent, the rounding of a decimal to
the nearest of them, and the comparison by value.  Nothing here is approximate: a finite number
stands for `± mantissa · 2 ^ exponent`.
-/

namespace ScopedSearch

/-- A binary64 number.  The finite ones are kept in the form that the format stores: a mantissa
below `2 ^ 53`, and at least `2 ^ 52` unless the exponent is the least one. -/
inductive Double where
  | finite (negative : Bool) (mantissa : Nat) (exponent : Int)
  | infinite (negative : Bool)
  | undefined
deriving DecidableEq, Inhabited

namespace Double

/-- The power of two with a whole exponent; one for a negative exponent. -/
def twoPow (e : Int) : Nat := Nat.pow 2 e.toNat

def tenPow (k : Int) : Nat := Nat.pow 10 k.toNat

/-- The least mantissa of the numbers that do not have the least exponent. -/
def leastFull : Nat := Nat.pow 2 52

def leastExponent : Int := -1074

def greatestExponent : Int := 971

def zero (negative : Bool) : Double := .finite negative 0 leastExponent

def isFinite : Double → Bool
  | .finite _ _ _ => true
  | _ => false

def isZero : Double → Bool
  | .finite _ m _ => m == 0
  | _ => false

/-! ### Rounding -/

/-- The natural number nearest to `p / q`, and the even one of two that are equally near. -/
def roundHalfEven (p q : Nat) : Nat :=
  if 2 * (p % q) < q then p / q
  else if q < 2 * (p % q) then p / q + 1
  else p / q + p / q % 2

/-- The fraction `p / q` divided by `2 ^ e`. -/
def overPowTwo (p q : Nat) (e : Int) : Nat × Nat :=
  (p * twoPow (-e), q * twoPow e)

/-- The exponent at which the fraction `p / q` has a whole part of 53 binary digits, or the least
exponent when that is greater. -/
def fittingExponent (p q : Nat) : Int :=
  let guess : Int := (p.log2 : Int) - q.log2 - 52
  let (a, b) := overPowTwo p q guess
  max (if a / b < leastFull then guess - 1 else guess) leastExponent

/-- The number nearest to `± p / q`, ties to the even mantissa. -/
def ofFraction (negative : Bool) (p q : Nat) : Double :=
  if p = 0 then zero negative else
  let e := fittingExponent p q
  let (a, b) := overPowTwo p q e
  let m := roundHalfEven a b
  let (m, e) := if m = 2 * leastFull then (leastFull, e + 1) else (m, e)
  if greatestExponent < e then .infinite negative else .finite negative m e

def decimalLength (n : Nat) : Nat := (Nat.toDigits 10 n).length

/-- The number nearest to `± digits · 10 ^ exponent`.  A decimal whose leading digit stands far
outside the range of the format is not expanded. -/
def ofDecimal (negative : Bool) (digits : Nat) (exponent : Int) : Double :=
  let top : Int := decimalLength digits + exponent
  if digits = 0 ∨ top < -330 then zero negative
  else if 310 < top then .infinite negative
  else ofFraction negative (digits * tenPow exponent) (tenPow (-exponent))

/-! ### Comparison by value -/

/-- Whether `a · 2 ^ e` and `b · 2 ^ f` are the same number. -/
def sameScaled (a : Int) (e : Int) (b : Int) (f : Int) : Bool :=
  a * twoPow (e - f) == b * twoPow (f - e)

def signed (negative : Bool) (m : Nat) : Int := if negative then -(m : Int) else m

/-- Equality of values within lists, objects and sets.  The two zeros are equal.  By itself an undefined
number would equal nothing, but members are compared by identity first, and all undefined numbers that
are read from JSON are one object. -/
def same : Double → Double → Bool
  | .finite n m e, .finite n' m' e' => sameScaled (signed n m) e (signed n' m') e'
  | .infinite n, .infinite n' => n == n'
  | .undefined, .undefined => true
  | _, _ => false

/-- Equality of an integer and a number, without rounding the integer. -/
def sameInt (i : Int) : Double → Bool
  | .finite n m e => sameScaled i 0 (signed n m) e
  | _ => false

/-- The integer that a finite number without a fraction is equal to. -/
def toInt? : Double → Option Int
  | .finite n m e =>
    if 0 ≤ e then some (signed n (m * twoPow e))
    else if m % twoPow (-e) = 0 then some (signed n (m / twoPow (-e)))
    else none
  | _ => none

end Double

end ScopedSearch
