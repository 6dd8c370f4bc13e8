import ScopedSearch.Url.Path

/-!
# Routes

The pages of the service and the paths that they are found under.  A path that names no page, but
would with a slash more or less at its end, is redirected there.
-/

namespace ScopedSearch

inductive Page where
  | status
  | schema
  | mapping (type : String)
  | data (type : String)
  | count (type : String)
  | download
  /-- A page that describes the service. -/
  | manual
deriving DecidableEq, Inhabited

namespace Page

def methods : Page → List String
  | status => ["GET"]
  | schema => ["GET"]
  | mapping _ => ["GET"]
  | data _ => ["POST"]
  | count _ => ["POST"]
  | download => ["POST"]
  | manual => ["GET", "HEAD"]

/-- The page of a type. -/
def ofType? (group type : String) : Option Page :=
  if type == "" then none
  else if group == "mapping" then some (mapping type)
  else if group == "data" then some (data type)
  else if group == "count" then some (count type)
  else none

def fixed : List (String × Page) := [
  ("/openapi.json", manual), ("/docs", manual), ("/docs/oauth2-redirect", manual),
  ("/redoc", manual), ("/_status", status), ("/schema", schema), ("/download", download)]

/-- A path without a line end after it. -/
def withoutLineEnd (path : String) : String :=
  let cs := path.toList
  if cs.getLast? == some '\n' then String.ofList cs.dropLast else path

/-- The page under a path.  A line end after the path of a page that is not of a type does not
matter. -/
def ofPath? (path : String) : Option Page :=
  match fixed.lookup (withoutLineEnd path) with
  | some page => some page
  | none =>
    match (Url.segments path.toList).map String.ofList with
    | [root, group, type] => if root == "" then ofType? group type else none
    | _ => none

end Page

namespace Route

/-- A path with its slashes at the end taken off, or with one put there. -/
def toggleSlash (path : String) : String :=
  let cs := path.toList
  if cs.getLast? == some '/' then String.ofList (cs.reverse.dropWhile (· == '/')).reverse
  else path ++ "/"

/-- The path that a path without a page is redirected to, if it is. -/
def moved? (path : String) : Option String :=
  let other := toggleSlash path
  if path == "/" || (Page.ofPath? other).isNone then none else some other

end Route

end ScopedSearch
