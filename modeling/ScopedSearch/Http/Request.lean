import ScopedSearch.Check.Integer
import ScopedSearch.Access.Accessibility
import ScopedSearch.Json.Reader
import ScopedSearch.Query.Body

/-!
# Requests over HTTP

A request as it arrives, and what its headers and its body say.  A body counts as JSON when its content
type says so; any other body is no object.
-/

namespace ScopedSearch

structure HttpRequest where
  method : String
  /-- Without its percent escapes, and without a query. -/
  path : String
  headers : List (String × String) := []
  body : String := ""
deriving Inhabited

namespace HttpRequest

/-! ### Headers -/

/-- The value of a header, whose name may be written in any letter case. -/
def header? (r : HttpRequest) (name : String) : Option String :=
  (r.headers.find? fun h => h.1.toLower == name).map (·.2)

/-- The text after `Bearer` and a blank, in any letter case. -/
def bearerToken? (authorization : String) : Option String :=
  let scheme := "bearer ".toList
  let cs := authorization.toList
  if (cs.take scheme.length).map Char.toLower == scheme then
    some (String.ofList (cs.drop scheme.length))
  else none

def token? (r : HttpRequest) : Option String := (r.header? "authorization").bind bearerToken?

/-- Whether a content type is JSON or one of its kinds. -/
def isJsonType (contentType : String) : Bool :=
  let name := (Text.trim Text.isBlank (contentType.toList.takeWhile (· != ';'))).map Char.toLower
  match name.takeWhile (· != '/'), name.dropWhile (· != '/') with
  | main, _ :: sub =>
    main == "application".toList && !sub.contains '/'
      && (sub == "json".toList || "+json".toList.isSuffixOf sub)
  | _, [] => false

/-! ### Bodies -/

def bodyPlace : List PathStep := [.key "body"]

/-- The entries of the object in a body; none if the body cannot be taken in at all. -/
def entries? (r : HttpRequest) : Option (Checked Entries) :=
  if r.body == "" then some (.fault bodyPlace .missing .null)
  else if !isJsonType ((r.header? "content-type").getD "") then
    some (.fault bodyPlace .notBody (.str r.body))
  else
    match Json.readMessage r.body with
    | .ok (.obj es) => some (.ok es)
    | .ok v => some (.fault bodyPlace .notBody v)
    | .error (.notRead .malformed) => some (.fault bodyPlace .notJson (.obj []))
    | .error _ => none

end HttpRequest

/-! ### What a body asks for -/

/-- An accessibility by its exact name. -/
def Check.accessibility : Check Accessibility := fun place v =>
  match Accessibility.ofValue? v with
  | some a => .ok a
  | none => .fault place .notChoice v

structure Inquiry where
  request : Request
  accessibility : Accessibility
deriving Inhabited

structure DownloadInquiry where
  type : String
  inquiry : Inquiry
deriving Inhabited

namespace Inquiry

open HttpRequest (bodyPlace)

def filter (es : Entries) : Checked Wire :=
  (Check.object.optional.defaulted none bodyPlace "filter" es).map fun v =>
    .json (Value.ofOption v)

def sort (es : Entries) : Checked Value :=
  Check.anything.defaulted .null bodyPlace "sort" es

def fields (es : Entries) : Checked (Option (List String)) :=
  Check.text.list.optional.defaulted none bodyPlace "fields" es

def offset (es : Entries) : Checked Int :=
  Check.natural.defaulted 0 bodyPlace "offset" es

def first (es : Entries) : Checked (Option Int) :=
  Check.natural.optional.defaulted none bodyPlace "first" es

def accessibilityOr (default : Accessibility) (es : Entries) : Checked Accessibility :=
  Check.accessibility.defaulted default bodyPlace "accessibility" es

/-- What the body of a request for a page asks for. -/
def page (es : Entries) : Checked Inquiry :=
  (fun filter sort fields offset size a => ⟨⟨filter, fields, sort, offset, size⟩, a⟩)
    <$> filter es <*> sort es <*> fields es <*> offset es <*> first es
    <*> accessibilityOr .all es

def count (es : Entries) : Checked Inquiry :=
  (fun filter a => ⟨{ filter }, a⟩) <$> filter es <*> accessibilityOr .all es

def download (es : Entries) : Checked DownloadInquiry :=
  (fun type filter sort fields a => ⟨type, ⟨{ filter, fields, sort }, a⟩⟩)
    <$> Check.text.required bodyPlace "type" es <*> filter es <*> sort es <*> fields es
    <*> accessibilityOr .accessible es

end Inquiry

end ScopedSearch
