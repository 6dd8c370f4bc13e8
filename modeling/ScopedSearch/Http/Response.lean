import ScopedSearch.Check.Fault
import ScopedSearch.Failure

/-!
# Responses over HTTP

A failure that is the caller's or the catalog's is reported with its message; of all others only the
fact is told.
-/

namespace ScopedSearch

inductive HttpContent where
  | json (v : Value)
  | text (s : String)
  | invalid (faults : List Fault)
deriving Inhabited

structure HttpResponse where
  status : Nat
  content : HttpContent
  /-- The path of a redirect. -/
  location? : Option String := none
deriving Inhabited

namespace HttpResponse

/-- Names that begin so are reserved for the tracking of records. -/
def isReserved (key : String) : Bool := "_sa".toList.isPrefixOf key.toList

mutual

/-- A value without its entries under reserved names, at any depth. -/
def visible : Value → Value
  | .arr items => .arr (visibleItems items)
  | .obj es => .obj (visibleEntries es)
  | v => v

def visibleItems : List Value → List Value
  | [] => []
  | v :: vs => visible v :: visibleItems vs

def visibleEntries : List (String × Value) → List (String × Value)
  | [] => []
  | (k, v) :: es => if isReserved k then visibleEntries es else (k, visible v) :: visibleEntries es

end

def json (v : Value) : HttpResponse := { status := 200, content := .json (visible v) }

def text (s : String) : HttpResponse := { status := 200, content := .text s }

/-- A response that tells in one text what is wrong. -/
def detail (status : Nat) (message : String) : HttpResponse :=
  { status, content := .json (.single "detail" (.str message)) }

def notFound : HttpResponse := detail 404 "Not Found"

def methodNotAllowed : HttpResponse := detail 405 "Method Not Allowed"

def unreadableBody : HttpResponse := detail 400 "There was an error parsing the body"

def redirect (path : String) : HttpResponse :=
  { status := 307, content := .text "", location? := some path }

def internalError : HttpResponse := { status := 500, content := .text "Internal Server Error" }

/-- A response that reports faults.  The values at fault are sent with it, and where that cannot be
done, the response fails. -/
def invalid (faults : List Fault) : HttpResponse :=
  if faults.all fun f => (visible f.value).isFinite then { status := 422, content := .invalid faults }
  else internalError

/-- The response to a failure. -/
def ofFailure (f : Failure) : HttpResponse :=
  match f.kind.status? with
  | some status => detail status f.message
  | none => internalError

def ofResult {α : Type} (respond : α → HttpResponse) : Except Failure α → HttpResponse
  | .ok a => respond a
  | .error f => ofFailure f

end HttpResponse

end ScopedSearch
