import ScopedSearch.Gateway.Basic
import ScopedSearch.Settings.Basic

/-!
# Opening gateways

A gateway over a recorder, whose catalog is given, and a gateway over a cluster, whose catalog is
read first: when a mapping cannot be read there is no gateway.
-/

namespace ScopedSearch

namespace Gateway

def overRecorder (s : Settings) (mappings : List (String × Value)) (documents distinct : List Value)
    (authority : Option Authority) : Except Failure Gateway :=
  (Catalog.ofMappings s.arrays mappings).map fun catalog =>
    { configs := s.indices, catalog, backend := .recorder documents distinct
      arrays := s.arrays, ceiling := s.ceiling, authority, authField := s.authField }

/-- The authority of some settings; an empty address is none. -/
def authorityOf (s : Settings) (reply : AuthorityReply) : Option Authority :=
  (s.authority.filter (· != "")).map (Authority.ofEndpoint · reply)

/-- A gateway over a cluster.  The step that opens it reads the mappings of all indices. -/
def overCluster (s : Settings) (c : Cluster) (reply : AuthorityReply) : Step Unit :=
  refresh
    { configs := s.indices, catalog := {}
      backend := .cluster { batchSize := s.batchSize } c
      arrays := s.arrays, ceiling := s.ceiling
      authority := authorityOf s reply, authField := s.authField }

end Gateway

end ScopedSearch
