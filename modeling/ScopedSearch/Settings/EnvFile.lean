import ScopedSearch.Failure
import ScopedSearch.Text.Blank
import ScopedSearch.Text.Encoding

/-!
# Environment files

A file of lines `NAME=value`.  Blanks may stand around the equals sign, `export` before the name,
and a comment after the value; a value may be quoted, and then go on over several lines.  A name
without an equals sign sets nothing, and a line that cannot be read is passed over.  A value may
refer to other variables as `${NAME}` or `${NAME:-default}`.
-/

namespace ScopedSearch

abbrev Environment := List (String × String)

/-- A name in an environment file, and its value if it is given one. -/
structure EnvBinding where
  name : String
  value : Option String
deriving DecidableEq, Inhabited

namespace EnvFile

open Text

/-! ### Lines -/

/-- Line ends of every kind as one. -/
def normalizeLines : List Char → List Char
  | [] => []
  | '\r' :: '\n' :: cs => '\n' :: normalizeLines cs
  | '\r' :: cs => '\n' :: normalizeLines cs
  | c :: cs => c :: normalizeLines cs

/-- A blank that does not end the line. -/
def isInlineBlank (c : Char) : Bool := isBlank c && c != '\n'

def skipInline (cs : List Char) : List Char := cs.dropWhile isInlineBlank

/-- The rest of a text after the end of the line. -/
def afterLine (cs : List Char) : List Char := (cs.dropWhile (· != '\n')).drop 1

/-- The rest of a text after a comment, if there is one, and the end of the line. -/
def closeLine (cs : List Char) : Option (List Char) :=
  let cs := skipInline cs
  let cs := if cs.head? == some '#' then cs.dropWhile (· != '\n') else cs
  match cs with
  | [] => some []
  | '\n' :: cs => some cs
  | _ => none

/-! ### Quoted texts -/

/-- A text up to its closing quote, and the rest.  A backslash and the character after it stand
together, so that a quote after a backslash does not close the text. -/
def readQuoted (quote : Char) : List Char → Option (List Char × List Char)
  | [] => none
  | '\\' :: c :: cs => (readQuoted quote cs).map fun (s, rest) => ('\\' :: c :: s, rest)
  | c :: cs =>
    if c == quote then some ([], cs)
    else (readQuoted quote cs).map fun (s, rest) => (c :: s, rest)

def singleEscape? (c : Char) : Option Char := if c == '\\' || c == '\x27' then some c else none

def doubleEscape? (c : Char) : Option Char :=
  if c == '\\' || c == '\x27' || c == '"' then some c
  else if c == 'a' then some '\x07'
  else if c == 'b' then some '\x08'
  else if c == 'f' then some '\x0c'
  else if c == 'n' then some '\n'
  else if c == 'r' then some '\r'
  else if c == 't' then some '\t'
  else if c == 'v' then some '\x0b'
  else none

/-- Replaces the escapes in a text; a backslash before any other character stands for itself. -/
def unescape (escape? : Char → Option Char) : List Char → List Char
  | [] => []
  | '\\' :: c :: cs =>
    match escape? c with
    | some d => d :: unescape escape? cs
    | none => '\\' :: unescape escape? (c :: cs)
  | c :: cs => c :: unescape escape? cs

/-! ### Names and values -/

/-- A text after `export` and the blanks that must follow it, if it begins so. -/
def skipExport (cs : List Char) : List Char :=
  match cs with
  | 'e' :: 'x' :: 'p' :: 'o' :: 'r' :: 't' :: c :: rest =>
    if isInlineBlank c then skipInline rest else cs
  | _ => cs

def isNameChar (c : Char) : Bool := !(c == '=' || c == '#' || isBlank c)

/-- A name between single quotes, after the first. -/
def readQuotedName (cs : List Char) : Option (List Char × List Char) :=
  match cs.takeWhile (· != '\x27'), cs.dropWhile (· != '\x27') with
  | c :: name, _ :: rest => some (c :: name, rest)
  | _, _ => none

/-- A name; none at the beginning of a comment. -/
def readName (cs : List Char) : Option (Option (List Char) × List Char) :=
  match cs with
  | '#' :: _ => some (none, cs)
  | '\x27' :: cs => (readQuotedName cs).map fun (name, rest) => (some name, rest)
  | cs =>
    match cs.takeWhile isNameChar with
    | [] => none
    | name => some (some name, cs.dropWhile isNameChar)

/-- What comes before a comment: a number sign begins one when blanks are before it. -/
def beforeComment : List Char → List Char
  | [] => []
  | c :: cs =>
    if isBlank c && ((c :: cs).dropWhile isBlank).head? == some '#' then []
    else c :: beforeComment cs

/-- A value without quotes, and the end of its line with all that follows. -/
def readPlain (cs : List Char) : List Char × List Char :=
  (trim isBlank (beforeComment (cs.takeWhile (· != '\n'))), cs.dropWhile (· != '\n'))

/-- The value after an equals sign.  When only blanks are between the sign and a comment, the value
is empty. -/
def readValue (cs : List Char) : Option (List Char × List Char) :=
  match skipInline cs with
  | '\x27' :: cs => (readQuoted '\x27' cs).map fun (s, rest) => (unescape singleEscape? s, rest)
  | '"' :: cs => (readQuoted '"' cs).map fun (s, rest) => (unescape doubleEscape? s, rest)
  | _ => some (readPlain cs)

/-! ### Bindings -/

/-- An outcome at the beginning of a binding: what is read, if anything, and the rest. -/
structure Reading where
  binding : Option EnvBinding
  rest : List Char

/-- A binding after its name. -/
def readAssigned (name : Option (List Char)) (cs : List Char) : Reading :=
  let named (value : Option (List Char)) : Option EnvBinding :=
    name.map fun n => ⟨String.ofList n, value.map String.ofList⟩
  let close (value : Option (List Char)) (cs : List Char) : Reading :=
    match closeLine cs with
    | some rest => ⟨named value, rest⟩
    | none => ⟨none, afterLine (skipInline cs)⟩
  match skipInline cs with
  | '=' :: cs =>
    match readValue cs with
    | some (value, rest) => close (some value) rest
    | none => ⟨none, afterLine (skipInline cs)⟩
  | cs => close none cs

/-- The binding at the beginning of a text, which does not begin with a blank. -/
def readBinding (cs : List Char) : Reading :=
  match readName (skipExport cs) with
  | some (name, rest) => readAssigned name rest
  | none => ⟨none, afterLine (skipExport cs)⟩

/-- The bindings of a text.  Every reading leaves less than there was. -/
def readBindings (cs : List Char) : List EnvBinding :=
  match cs.dropWhile isBlank with
  | [] => []
  | c :: r =>
    let reading := readBinding (c :: r)
    if reading.rest.length < cs.length then
      reading.binding.toList ++ readBindings reading.rest
    else reading.binding.toList
termination_by cs.length

def read (text : String) : List EnvBinding :=
  readBindings (normalizeLines (afterMark text.toList))

/-! ### References -/

/-- A reference after its opening brace: the name, the default, and the rest. -/
def readReference (cs : List Char) : Option (List Char × List Char × List Char) :=
  let name := cs.takeWhile fun c => c != '\x7d' && c != ':'
  match cs.dropWhile fun c => c != '\x7d' && c != ':' with
  | ':' :: '-' :: r =>
    match r.dropWhile (· != '\x7d') with
    | _ :: rest => some (name, r.takeWhile (· != '\x7d'), rest)
    | [] => none
  | '\x7d' :: rest => some (name, [], rest)
  | _ => none

/-- Replaces the references in a text.  `value?` tells what is known of a name: a name that is known
without a value stands for nothing.  Every reference leaves less than there was. -/
def expand (value? : String → Option (Option String)) (cs : List Char) : List Char :=
  match cs with
  | [] => []
  | '$' :: '\x7b' :: r =>
    match readReference r with
    | some (name, default, rest) =>
      let value := match value? (String.ofList name) with
        | none => default
        | some v => (v.getD "").toList
      if rest.length < r.length then value ++ expand value? rest else value
    | none => '$' :: expand value? ('\x7b' :: r)
  | c :: r => c :: expand value? r
termination_by cs.length

/-- A name takes its new value in the place of its former one, or comes last. -/
def assign (name : String) (value : Option String) :
    List (String × Option String) → List (String × Option String)
  | [] => [(name, value)]
  | (n, v) :: rest => if n == name then (n, value) :: rest else (n, v) :: assign name value rest

/-- What is known of a name: a set variable comes before the bindings of the file. -/
def known (env : Environment) (bound : List (String × Option String)) (name : String) :
    Option (Option String) :=
  match env.lookup name with
  | some v => some (some v)
  | none => bound.lookup name

/-- The bindings of a file with their references replaced; a later binding of a name overrides an
earlier one. -/
def resolve (env : Environment) (bindings : List EnvBinding) : List (String × Option String) :=
  bindings.foldl (fun bound b =>
    assign b.name (b.value.map fun v => String.ofList (expand (known env bound) v.toList)) bound)
    []

/-- Whether a variable may be set. -/
def checkVariable (name value : String) : Except Failure Unit :=
  if name.toList.contains '\x00' || value.toList.contains '\x00' then .error .embeddedNull
  else if name.toList.contains '=' then .error .illegalVariable
  else .ok ()

/-- The variables of a file that have a value and are not set yet. -/
def additions (env : Environment) (text : String) : Environment :=
  (resolve env (read text)).filterMap fun (name, value) =>
    if (env.lookup name).isSome then none else value.map (name, ·)

/-- The environment with the variables of a file.  A variable that is set is never overridden. -/
def load (env : Environment) (text : String) : Except Failure Environment := do
  let new := additions env text
  new.forM fun (name, value) => checkVariable name value
  return env ++ new

end EnvFile

end ScopedSearch
