import ScopedSearch.Http.Service
import ScopedSearch.Proofs.Query.Aggregation
import ScopedSearch.Proofs.Http.Confinement
import ScopedSearch.Proofs.Backend.Streams
import ScopedSearch.Proofs.Gateway.Agreement
import ScopedSearch.Proofs.Schema.Order
import ScopedSearch.Proofs.Schema.References
import ScopedSearch.Proofs.Schema.Consistency
import ScopedSearch.Proofs.Query.WellFormed
import ScopedSearch.Proofs.Gateway.Admission
import ScopedSearch.Proofs.Gateway.Memoisation
import ScopedSearch.Proofs.Catalog.Refresh
import ScopedSearch.Proofs.Filter.Grammar
import ScopedSearch.Proofs.Query.Refusal
import ScopedSearch.Proofs.Query.Exclusion
import ScopedSearch.Proofs.Query.Independence
import ScopedSearch.Proofs.Gateway.Fallback
import ScopedSearch.Proofs.Backend.Distinct
import ScopedSearch.Proofs.Schema.Breadth
import ScopedSearch.Proofs.Schema.Text
import ScopedSearch.Proofs.Query.Sorting
import ScopedSearch.Proofs.Catalog.Mirror
import ScopedSearch.Proofs.Query.Spelling
import ScopedSearch.Proofs.Json.Pieces
