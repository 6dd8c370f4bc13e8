import ScopedSearch.Check.Fault
import ScopedSearch.Text.Blank

/-!
# Integers that are handed in

An integer may be written as a text, with blanks around it, a sign, zeros in front, underscores
between digits, and a fraction of zeros.  A minus sign may also stand behind the zeros in front.
Booleans count as 0 and 1, and a number without a fraction as the integer that it is equal to.
-/

namespace ScopedSearch

namespace Integer

/-! ### From a text -/

/-- A text after its plus sign; a minus sign may not follow. -/
def afterPlus : List Char → Option (List Char)
  | '+' :: '-' :: _ => none
  | '+' :: cs => some cs
  | cs => some cs

def splitMinus : List Char → Bool × List Char
  | '-' :: cs => (true, cs)
  | cs => (false, cs)

/-- The characters that may stand where the zeros in front end. -/
def beginsNumber (c : Char) : Bool := ('1' ≤ c && c ≤ '9') || c == '-'

/-- A text after the zeros and underscores that follow a first zero.  `last` is the character
before: a point and the end of the text keep it. -/
def afterZeros (last : Char) : List Char → Option (List Char)
  | [] => some [last]
  | c :: cs =>
    if c == '0' || c == '_' then afterZeros c cs
    else if beginsNumber c then some (c :: cs)
    else if c == '.' then some (last :: c :: cs)
    else none

/-- A text without the zeros in front; it must begin with a digit or a minus sign. -/
def withoutZeros : List Char → Option (List Char)
  | [] => none
  | c :: cs =>
    if c == '0' then afterZeros c cs
    else if beginsNumber c then some (c :: cs)
    else none

/-- A text without a fraction of zeros; a point without digits is no fraction. -/
def withoutFraction (cs : List Char) : List Char :=
  match cs.dropWhile (· != '.') with
  | _ :: d :: ds => if (d :: ds).all (· == '0') then cs.takeWhile (· != '.') else cs
  | _ => cs

def doubled : List Char → Bool
  | '_' :: '_' :: _ => true
  | _ :: cs => doubled cs
  | [] => false

/-- A text without its underscores, if each stands alone between other characters. -/
def withoutUnderscores (cs : List Char) : List Char :=
  if cs.head? == some '_' || cs.getLast? == some '_' || doubled cs then cs
  else cs.filter (· != '_')

/-- A text without what an integer may be dressed in: a sign and what follows it. -/
def bare (text : String) : Option (Bool × List Char) := do
  let cs ← afterPlus (Text.trim Text.isWhiteSpace text.toList)
  let (negative, cs) := splitMinus cs
  let cs ← withoutZeros cs
  return (negative, withoutUnderscores (withoutFraction cs))

def digitLimit : Nat := 4300

/-- The natural number that digits write; only zero itself may begin with a zero.  Too many digits
are found before anything that follows them. -/
def ofDigits (cs : List Char) : Except FaultKind Nat :=
  match cs with
  | ['0'] => .ok 0
  | '0' :: _ => .error .integerText
  | cs =>
    let ds := cs.takeWhile Char.isDigit
    if digitLimit < ds.length then .error .integerSize
    else if ds.isEmpty || ds.length < cs.length then .error .integerText
    else .ok (ds.foldl (fun n c => 10 * n + (c.toNat - '0'.toNat)) 0)

/-- The integer that digits write after one minus sign at the most. -/
def ofSigned (negative : Bool) (cs : List Char) : Except FaultKind Int :=
  match splitMinus cs with
  | (true, rest) =>
    if negative then .error .integerText else (ofDigits rest).map fun n => -(n : Int)
  | (false, _) => (ofDigits cs).map fun n => if negative then -(n : Int) else n

def ofText (text : String) : Except FaultKind Int :=
  match bare text with
  | none => .error .integerText
  | some (negative, cs) => ofSigned negative cs

/-! ### From a value -/

/-- The numbers that are taken as integers lie strictly between this and its negative. -/
def doubleLimit : Int := 9223372036854775808

/-- The integer that a floating-point number is equal to. -/
def ofDouble (x : Double) : Except FaultKind Int :=
  match x with
  | .finite _ _ _ =>
    match x.toInt? with
    | none => .error .fraction
    | some n => if -doubleLimit < n ∧ n < doubleLimit then .ok n else .error .integerSize
  | _ => .error .notFinite

def ofValue : Value → Except FaultKind Int
  | .bool b => .ok (Value.ofBool b)
  | .int n => .ok n
  | .double x => ofDouble x
  | .str s => ofText s
  | _ => .error .notInteger

end Integer

namespace Check

def integer : Check Int := fun place v =>
  match Integer.ofValue v with
  | .ok n => .ok n
  | .error kind => .fault place kind v

/-- An integer that is not negative. -/
def natural : Check Int := fun place v =>
  (integer place v).andThen fun n => if n < 0 then .fault place .negative v else .ok n

end Check

end ScopedSearch
