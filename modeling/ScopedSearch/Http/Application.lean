import ScopedSearch.Gateway.Requests
import ScopedSearch.Http.Request
import ScopedSearch.Http.Response
import ScopedSearch.Http.Route
import ScopedSearch.Json.Writer

/-!
# The application

What is answered to a request that has arrived.  The authorization filter is settled before anything
else is asked of the gateway.  A path that names no page is answered with a redirect, if another one
does, and is not followed here.
-/

namespace ScopedSearch

/-- A request that was answered: the response, what was asked for it, and the gateway after it. -/
structure Served where
  response : HttpResponse
  calls : List Call := []
  requests : List AuthorityRequest := []
  gateway : Gateway

namespace Service

/-! ### Pages -/

def plain (g : Gateway) (response : HttpResponse) : Served := { response, gateway := g }

def ofStep {α : Type} (respond : α → HttpResponse) (s : Step α) : Served :=
  ⟨HttpResponse.ofResult respond s.result, s.calls, s.requests, s.gateway⟩

/-- The text of a stream that is sent.  One that breaks off leaves nothing to be read. -/
def streamText (r : StreamRun Backend) : String :=
  match r.result with
  | .ok documents => "".intercalate (Json.arrayChunks documents)
  | .error _ => ""

/-- A step after the authorization filter for an inquiry is settled. -/
def authorizedStep {α : Type} (g : Gateway) (type : String) (token : Option String)
    (a : Accessibility) (next : Wire → Gateway → Step α) : Step α :=
  (g.authFilter type token a).andThen fun filter g => next (Gateway.authWire filter) g

def data (g : Gateway) (type : String) (token : Option String) (q : Inquiry) : Served :=
  ofStep (HttpResponse.json ∘ .arr) <|
    authorizedStep g type token q.accessibility fun auth g => g.data type q.request auth

def count (g : Gateway) (type : String) (token : Option String) (q : Inquiry) : Served :=
  ofStep (HttpResponse.json ∘ .single "count") <|
    authorizedStep g type token q.accessibility fun auth g => g.count type q.request.filter auth

/-- All documents of a type.  The stream is compiled before the answer begins, and what goes wrong
after that does not change the status. -/
def download (g : Gateway) (token : Option String) (q : DownloadInquiry) : Served :=
  ofStep HttpResponse.text <|
    authorizedStep g q.type token q.inquiry.accessibility fun auth g =>
      match g.downloadStream q.type q.inquiry.request auth none with
      | .error f => .ofResult g (.error f)
      | .ok run => { Step.ofStream g run with result := .ok (streamText run) }

/-- An answer to a body that passes its check. -/
def withBody {α : Type} (g : Gateway) (r : HttpRequest) (check : Entries → Checked α)
    (next : α → Served) : Served :=
  match r.entries? with
  | none => plain g .unreadableBody
  | some entries =>
    match entries.andThen check with
    | .ok a => next a
    | .faulty fs => plain g (.invalid fs)

/-- The answer of a page. -/
def answer (g : Gateway) (r : HttpRequest) : Page → Served
  | .status => plain g (.json (.single "status" (.str "ok")))
  | .schema => ofStep HttpResponse.text g.schemaText
  | .mapping type =>
    plain g (HttpResponse.ofResult (HttpResponse.json ∘ Value.texts) (g.mappingFields type))
  | .data type => withBody g r Inquiry.page (data g type r.token?)
  | .count type => withBody g r Inquiry.count (count g type r.token?)
  | .download => withBody g r Inquiry.download (download g r.token?)
  | .manual => plain g (.text "")

def serve (g : Gateway) (r : HttpRequest) : Served :=
  match Page.ofPath? r.path with
  | some page =>
    if page.methods.contains r.method then answer g r page else plain g .methodNotAllowed
  | none =>
    match Route.moved? r.path with
    | some path => plain g (.redirect path)
    | none => plain g .notFound

end Service

end ScopedSearch
