import Mathlib.Algebra.BigOperators.Group.Finset.Basic
import Mathlib.Algebra.BigOperators.Ring.Finset
import Mathlib.Algebra.Order.BigOperators.Group.Finset
import Mathlib.Algebra.Order.BigOperators.Group.List
import ShortlinkCatalog.Proofs.Service.Admission
import ShortlinkCatalog.Proofs.Service.RefreshAll

/-!
# What a client makes the service ask the archive

An admitted call asks the archive a fixed list of queries, so the queries of a run are those
of its admissions.  A refresh asks for the captures of one shortener and a refresh of all
asks for those of every shortener, while each counts as one visit.  Limits are kept for each
path, so what a client can cause in a window is a sum over the paths that it uses.
-/

namespace ShortlinkCatalog.Service

variable {σ : Type}

/-! ## Queries of calls -/

instance (registry : Registry) : Decidable (IsTellable registry) :=
  inferInstanceAs (Decidable (∀ name ∈ registry.names, name.isEncodable = true))

section Asking

variable [Json.Room] [Catalog.Annotations]

end Asking

/-! ## How many they are -/

/-- The number of queries for captures that one call to an endpoint asks. -/
def Endpoint.width (registry : Registry) : Endpoint → Nat
  | .refresh name => if registry.contains name then 1 else 0
  | .refreshAll => if IsTellable registry then registry.size else 0
  | _ => 0

section Sums

variable [Json.Room]

end Sums

/-! ## Paths of refreshes -/

/-- The refreshes that a registry has. -/
def refreshes (registry : Registry) : List Endpoint :=
  .refreshAll :: registry.names.map .refresh

section

variable [Json.Room] (registry : Registry) (client : Text) (requests : List Request)

end

end ShortlinkCatalog.Service
