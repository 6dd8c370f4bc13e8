import ScopedSearch.Gateway.Opening
import ScopedSearch.Http.Client
import ScopedSearch.Settings.LogLevel

/-!
# The service

The service is started over a gateway, or by the settings of an environment, and asked request after
request by a client.
-/

namespace ScopedSearch

namespace Service

/-- Starts the service of a gateway: its schema must be there. -/
def start (g : Gateway) : Step Unit := g.buildSchema.andThen fun _ g => .ofResult g (.ok ())

/-- Starts the service of a cluster by the settings of an environment. -/
def startFrom (s : Settings) (c : Cluster) (reply : AuthorityReply) : Step Unit :=
  let opening := Gateway.overCluster s c reply
  match LogLevel.ofName (some s.logLevel) with
  | .error f => .ofResult opening.gateway (.error f)
  | .ok _ => opening.andThen fun _ g => start g

/-- Answers the requests of a client, one after the other. -/
def respondAll (g : Gateway) : List HttpRequest → Except Failure (List Served)
  | [] => .ok []
  | r :: rs => do
    let served ← Client.send g r
    return served :: (← respondAll served.gateway rs)

end Service

end ScopedSearch
