import ScopedSearch.Http.Application
import ScopedSearch.Url.Address

/-!
# Clients

What a request goes through between a client and the application, on both ways: which requests are sent,
under which path they arrive, and how redirects are followed.  None of this is of the application.
-/

namespace ScopedSearch

namespace Client

/-! ### Targets -/

def service : Url.Address := { scheme := "http".toList, host := "testserver".toList }

/-- The path under which a request for an address arrives.  Percent escapes are decoded by the client,
and once more on arrival. -/
def pathOf (a : Url.Address) : String :=
  String.ofList (Url.percentDecode (Url.percentDecode (service.under a).rootPath))

/-- The path under which a request for a target arrives; none if the target is no address. -/
def path? (target : String) : Option String := (Url.Address.ofText? target).map pathOf

/-- The target under which a redirect finds a path. -/
def targetOf (path : String) : String :=
  String.ofList (service.toList ++ Url.percentEncode .redirect path.toList)

/-! ### Requests -/

def hasPlainHeaders (r : HttpRequest) : Bool :=
  r.headers.all fun (name, value) => (name ++ value).toList.all (·.toNat < 128)

/-- The request that arrives, from one with a target in the place of its path.  One whose target is no
address, or whose headers are not of ASCII characters alone, is not sent. -/
def arriving (r : HttpRequest) : Except Failure HttpRequest :=
  match path? r.path with
  | none => .error .badAddress
  | some path => if hasPlainHeaders r then .ok { r with path } else .error .badHeader

/-! ### Redirects -/

def redirectLimit : Nat := 20

/-- The answer to a request, after so many redirects at the most. -/
def follow : Nat → Gateway → HttpRequest → Except Failure Served
  | hops, g, r =>
    let served := Service.serve g r
    match served.response.location?, hops with
    | none, _ => .ok served
    | some _, 0 => .ok served
    | some path, hops + 1 =>
      match path? (targetOf path) with
      | none => .error .badAddress
      | some path => follow hops served.gateway { r with path }

/-- Sends a request and reads its answer. -/
def send (g : Gateway) (r : HttpRequest) : Except Failure Served := do
  follow redirectLimit g (← arriving r)

end Client

end ScopedSearch
