import ScopedSearch.Failure
import ScopedSearch.Text.Encoding
import ScopedSearch.Value

/-!
# Reading JSON

A reader for JSON text.  Whole numbers and numbers with a fraction or an exponent are kept apart,
a key that is written twice keeps its first place and its last value, and the words `NaN`,
`Infinity` and `-Infinity` are numbers.  Where texts come from outside, integers may not have too
many digits, and lists and objects may not lie too deep inside each other; the first fault that is
met is reported.
-/

namespace ScopedSearch

inductive JsonError where
  /-- The text is not JSON. -/
  | malformed
  /-- The text is over a limit. -/
  | refused (f : Failure)
deriving DecidableEq, Inhabited

namespace Json

open Text (isHighUnit isLowUnit joinUnits unitChar)

/-! ### Limits -/

/-- What a reader accepts; without a limit all is accepted. -/
structure Limits where
  /-- How many digits an integer may have. -/
  digits : Option Nat := none
  /-- How many lists and objects may lie inside each other. -/
  depth : Option Nat := none
deriving Inhabited

/-- The limits for texts from outside. -/
def Limits.outside : Limits := ⟨some 4300, some 990⟩

/-- Refuses an integer of too many digits. -/
def Limits.checkDigits (l : Limits) (digits : Nat) : Except JsonError Unit :=
  match l.digits with
  | some limit =>
    if limit < digits then .error (.refused (.longInteger limit digits)) else .ok ()
  | none => .ok ()

/-- Refuses a list or an object with too many others around it. -/
def Limits.checkDepth (l : Limits) (depth : Nat) : Except JsonError Unit :=
  match l.depth with
  | some limit => if limit ≤ depth then .error (.refused .tooDeep) else .ok ()
  | none => .ok ()

/-- What is there, or else a text that is not JSON. -/
def require {α : Type} : Option α → Except JsonError α
  | some a => .ok a
  | none => .error .malformed

/-! ### Blanks and words -/

def isBlank (c : Char) : Bool := c == ' ' || c == '\t' || c == '\n' || c == '\r'

def skipBlanks (cs : List Char) : List Char := cs.dropWhile isBlank

/-- The rest of a text after a word that it begins with. -/
def afterWord : List Char → List Char → Option (List Char)
  | [], cs => some cs
  | _ :: _, [] => none
  | w :: ws, c :: cs => if w == c then afterWord ws cs else none

/-! ### Numbers -/

def digitValue (c : Char) : Nat := c.toNat - '0'.toNat

def ofDigits (ds : List Char) : Nat := ds.foldl (fun n c => 10 * n + digitValue c) 0

def spanDigits (cs : List Char) : List Char × List Char :=
  (cs.takeWhile Char.isDigit, cs.dropWhile Char.isDigit)

/-- The whole part of a number: a zero alone, or digits that do not begin with a zero. -/
def readWhole : List Char → Option (List Char × List Char)
  | '0' :: r => some (['0'], r)
  | cs =>
    match spanDigits cs with
    | ([], _) => none
    | dr => some dr

/-- A point and digits, if both are there. -/
def readFraction : List Char → List Char × List Char
  | '.' :: r =>
    match spanDigits r with
    | ([], _) => ([], '.' :: r)
    | dr => dr
  | cs => ([], cs)

/-- An exponent with its digits, if all of it is there. -/
def readExponent : List Char → Option Int × List Char
  | [] => (none, [])
  | c :: r =>
    if c == 'e' || c == 'E' then
      let (negative, ds) : Bool × List Char :=
        match r with
        | '-' :: t => (true, t)
        | '+' :: t => (false, t)
        | t => (false, t)
      match spanDigits ds with
      | ([], _) => (none, c :: r)
      | (ds, t) => (some (if negative then -(ofDigits ds : Int) else ofDigits ds), t)
    else (none, c :: r)

/-- A number after its sign: an integer, unless it has a fraction or an exponent. -/
def readMagnitude (l : Limits) (negative : Bool) (cs : List Char) :
    Except JsonError (Value × List Char) := do
  let (whole, r) ← require (readWhole cs)
  let (fraction, r) := readFraction r
  let (exponent, r) := readExponent r
  if fraction.isEmpty && exponent.isNone then
    l.checkDigits whole.length
    return (.int (if negative then -(ofDigits whole : Int) else ofDigits whole), r)
  else
    return (.double (.ofDecimal negative (ofDigits (whole ++ fraction))
      (exponent.getD 0 - fraction.length)), r)

def readNumber (l : Limits) : List Char → Except JsonError (Value × List Char)
  | '-' :: r =>
    match afterWord "Infinity".toList r with
    | some r => .ok (.double (.infinite true), r)
    | none => readMagnitude l true r
  | cs => readMagnitude l false cs

/-! ### Texts -/

def hexValue? (c : Char) : Option Nat :=
  if '0' ≤ c && c ≤ '9' then some (c.toNat - '0'.toNat)
  else if 'a' ≤ c && c ≤ 'f' then some (c.toNat - 'a'.toNat + 10)
  else if 'A' ≤ c && c ≤ 'F' then some (c.toNat - 'A'.toNat + 10)
  else none

/-- The 16-bit unit that four hexadecimal digits write. -/
def unit? (a b c d : Char) : Option Nat := do
  let a ← hexValue? a
  let b ← hexValue? b
  let c ← hexValue? c
  let d ← hexValue? d
  return ((a * 16 + b) * 16 + c) * 16 + d

/-- The character that a backslash and a letter stand for. -/
def plainEscape? : Char → Option Char
  | '"' => some '"'
  | '\\' => some '\\'
  | '/' => some '/'
  | 'b' => some '\x08'
  | 'f' => some '\x0c'
  | 'n' => some '\n'
  | 'r' => some '\r'
  | 't' => some '\t'
  | _ => none

/-- A part of a text: a character, or a unit that is written by its number. -/
inductive TextPart where
  | char (c : Char)
  | unit (u : Nat)
deriving DecidableEq, Inhabited

/-- The characters of some parts: a high unit and a low one right after it are one character. -/
def charsOfParts : List TextPart → List Char
  | [] => []
  | .unit high :: .unit low :: ps =>
    if isHighUnit high && isLowUnit low then joinUnits high low :: charsOfParts ps
    else unitChar high :: charsOfParts (.unit low :: ps)
  | .unit u :: ps => unitChar u :: charsOfParts ps
  | .char c :: ps => c :: charsOfParts ps

/-- The parts of a text up to its closing quote, and the rest.  Control characters must be
escaped. -/
def readParts : List Char → Option (List TextPart × List Char)
  | [] => none
  | '"' :: r => some ([], r)
  | '\\' :: 'u' :: a :: b :: c :: d :: r => do
    let u ← unit? a b c d
    let (ps, r) ← readParts r
    return (.unit u :: ps, r)
  | '\\' :: e :: r => do
    let c ← plainEscape? e
    let (ps, r) ← readParts r
    return (.char c :: ps, r)
  | c :: r =>
    if c.toNat < 0x20 then none else do
      let (ps, r) ← readParts r
      return (.char c :: ps, r)

def readText (cs : List Char) : Option (String × List Char) := do
  let (ps, r) ← readParts cs
  return (String.ofList (charsOfParts ps), r)

/-! ### Values -/

/-- A key, its colon and the blanks around it. -/
def readKey : List Char → Option (String × List Char)
  | '"' :: r => do
    let (k, r) ← readText r
    match skipBlanks r with
    | ':' :: r => return (k, skipBlanks r)
    | _ => none
  | _ => none

mutual

/-- A value at the front of a text, and the rest, `depth` lists and objects inside others.  The fuel
bounds the nesting and the number of parts; the length of the text is always enough. -/
def readValue (l : Limits) : Nat → Nat → List Char → Except JsonError (Value × List Char)
  | 0, _, _ => .error .malformed
  | fuel + 1, depth, cs =>
    match cs with
    | [] => .error .malformed
    | c :: r =>
      if c == '"' then do
        let (s, r) ← require (readText r)
        return (.str s, r)
      else if c == '[' then do
        l.checkDepth depth
        match skipBlanks r with
        | ']' :: r => return (.arr [], r)
        | r => do
          let (vs, r) ← readItems l fuel (depth + 1) r
          return (.arr vs, r)
      else if c == '\x7b' then do
        l.checkDepth depth
        match skipBlanks r with
        | '\x7d' :: r => return (.obj [], r)
        | r => do
          let (es, r) ← readEntries l fuel (depth + 1) r
          return (.obj (Value.collect es), r)
      else if c == 'n' then require ((afterWord "ull".toList r).map (.null, ·))
      else if c == 't' then require ((afterWord "rue".toList r).map (.bool true, ·))
      else if c == 'f' then require ((afterWord "alse".toList r).map (.bool false, ·))
      else if c == 'N' then require ((afterWord "aN".toList r).map (.double .undefined, ·))
      else if c == 'I' then
        require ((afterWord "nfinity".toList r).map (.double (.infinite false), ·))
      else readNumber l (c :: r)

/-- The items of a list up to its closing bracket; at least one. -/
def readItems (l : Limits) : Nat → Nat → List Char → Except JsonError (List Value × List Char)
  | 0, _, _ => .error .malformed
  | fuel + 1, depth, cs => do
    let (v, r) ← readValue l fuel depth cs
    match skipBlanks r with
    | ',' :: r => do
      let (vs, r) ← readItems l fuel depth (skipBlanks r)
      return (v :: vs, r)
    | ']' :: r => return ([v], r)
    | _ => throw .malformed

/-- The entries of an object up to its closing brace; at least one. -/
def readEntries (l : Limits) : Nat → Nat → List Char → Except JsonError (Entries × List Char)
  | 0, _, _ => .error .malformed
  | fuel + 1, depth, cs => do
    let (k, r) ← require (readKey cs)
    let (v, r) ← readValue l fuel depth r
    match skipBlanks r with
    | ',' :: r => do
      let (es, r) ← readEntries l fuel depth (skipBlanks r)
      return ((k, v) :: es, r)
    | '\x7d' :: r => return ([(k, v)], r)
    | _ => throw .malformed

end

/-- The value that a text writes, with blanks around it and nothing else. -/
def readWithin (l : Limits) (cs : List Char) : Except JsonError Value := do
  let (v, r) ← readValue l (cs.length + 1) 0 (skipBlanks cs)
  match skipBlanks r with
  | [] => return v
  | _ => throw .malformed

def read (text : String) : Option Value := (readWithin {} text.toList).toOption

def readOutside (text : String) : Except JsonError Value := readWithin .outside text.toList

end Json

inductive MessageError where
  /-- The bytes of the message make no characters. -/
  | undecodable
  | notRead (e : JsonError)
deriving DecidableEq, Inhabited

def Json.readMessage (text : String) : Except MessageError Value :=
  match Text.decodeMessage text with
  | none => .error .undecodable
  | some cs => (readWithin .outside cs).mapError .notRead

end ScopedSearch
