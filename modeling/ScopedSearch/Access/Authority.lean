import ScopedSearch.Value.Parts
import ScopedSearch.Json.Reader
import ScopedSearch.Url.Address

/-!
# The authority

The service that knows which resources a user may access.  A caller without a token, a failed
request and an answer that cannot be read all give no resources at all.  At a relative address there
is nobody: a request goes out, but nothing comes back.
-/

namespace ScopedSearch

/-- What comes back from the authority: a status with a body, or nothing. -/
inductive AuthorityReply where
  | answered (status : Int) (body : String)
  | unreachable
deriving Inhabited

structure AuthorityRequest where
  url : String
  body : Value
deriving Inhabited

/-- The authority at an address, and what it replies. -/
structure Authority where
  base : String
  reply : AuthorityReply
deriving Inhabited

namespace Authority

def trimSlashes (endpoint : String) : String :=
  String.ofList (endpoint.toList.reverse.dropWhile (· == '/')).reverse

def ofEndpoint (endpoint : String) (reply : AuthorityReply) : Authority :=
  ⟨trimSlashes endpoint, reply⟩

/-- Where the authority is asked, if its address is one. -/
def address? (a : Authority) : Option Url.Address :=
  Url.Address.ofText? (a.base ++ "/auth/resources")

/-- The question for the resources of a token, at an address. -/
def request (address : Url.Address) (token : String) : AuthorityRequest :=
  ⟨(Url.Address.under {} address).render, .single "user" (.single "token" (.str token))⟩

def listed (answer : Value) : Except Failure (List Value) :=
  match answer with
  | .obj es =>
    match es.lookup "resources" with
    | some v => v.parts
    | none => .ok []
  | v => v.parts

def body? : AuthorityReply → Option String
  | .answered status body => if 200 ≤ status ∧ status < 300 then some body else none
  | .unreachable => none

/-- The resources in a body; none when it cannot be read.  Only a body with too many lists inside
each other is a failure. -/
def resourcesIn (body : String) : Except Failure (List Value) :=
  match Json.readMessage body with
  | .ok v => listed v
  | .error (.notRead (.refused .tooDeep)) => .error .tooDeep
  | .error _ => .ok []

/-- The resources in a reply; none when it is no success. -/
def resourcesOf (reply : AuthorityReply) : Except Failure (List Value) :=
  match body? reply with
  | some body => resourcesIn body
  | none => .ok []

/-- The request made for a token at an address, and the resources of its user. -/
def ask (a : Authority) (address : Url.Address) (token : String) :
    List AuthorityRequest × Except Failure (List Value) :=
  ([request address token], if address.isAbsolute then resourcesOf a.reply else .ok [])

/-- The requests made for a token, and the resources of its user. -/
def resources (a : Authority) (token : Option String) :
    List AuthorityRequest × Except Failure (List Value) :=
  match token with
  | none => ([], .ok [])
  | some t =>
    if t == "" then ([], .ok [])
    else
      match a.address? with
      | none => ([], .error .badAddress)
      | some address => a.ask address t

end Authority

end ScopedSearch
