import ShortlinkCatalog.Proofs.Service.Routing
import ShortlinkCatalog.Proofs.Shortener.NameIndex
import ShortlinkCatalog.Proofs.Text.Quoted
import ShortlinkCatalog.Service.Handle

/-!
# What a client is told

A request that is no question for leave is told the outcome of its answer, if that can be
sent.
-/

namespace ShortlinkCatalog

/-! ## Values that can be sent -/

namespace Json

theorem areSendable_iff (items : List Json) :
    areSendable items = true ↔ ∀ item ∈ items, item.isSendable = true := by
  induction items with
  | nil => simp [areSendable]
  | cons item items ih => rw [areSendable, Bool.and_eq_true, ih, List.forall_mem_cons]

theorem isSendable_array_iff (items : List Json) :
    (Json.array items).isSendable = true ↔ ∀ item ∈ items, item.isSendable = true := by
  rw [isSendable, areSendable_iff]

theorem isSendable_record_iff (members : List (String × Json)) :
    (record members).isSendable = true ↔ ∀ member ∈ members, member.2.isSendable = true := by
  rw [record, isSendable]
  induction members with
  | nil => simp [haveSendable]
  | cons member members ih =>
      rw [List.map_cons, haveSendable, Bool.and_eq_true, ih, List.forall_mem_cons,
        Text.isEncodable_ofString, Bool.true_and]

end Json

namespace Service

variable {σ : Type}

/-! ## Responses -/

/-- The response that is made of an outcome. -/
def told (outcome : Except Failure Response) : Response :=
  match sendable outcome with
  | .error _ => failureResponse
  | .ok response => response

theorem told_of_isSendable {response : Response} (hsendable : response.isSendable = true) :
    told (.ok response) = response := by
  simp [told, sendable, hsendable]

theorem told_of_not_isSendable {response : Response} (hsendable : response.isSendable = false) :
    told (.ok response) = failureResponse := by
  simp [told, sendable, hsendable]

theorem isSendable_ofDetail_iff (status : Nat) (detail : Text) :
    (Response.ofDetail status detail).isSendable = true ↔ detail.isEncodable = true := by
  refine (Json.isSendable_record_iff _).trans ?_
  simp [Json.isSendable]

/-- That the service is at fault is told, whether or not the detail can be sent. -/
theorem status_told_ofDetail (detail : Text) :
    (told (.ok (.ofDetail 500 detail))).status = 500 := by
  cases hsendable : (Response.ofDetail 500 detail).isSendable with
  | true =>
      rw [told_of_isSendable hsendable]
      rfl
  | false =>
      rw [told_of_not_isSendable hsendable]
      rfl

theorem leave?_of_method_ne {request : Request} (hmethod : request.method ≠ "OPTIONS") :
    CrossOrigin.leave? request = none := by
  rw [CrossOrigin.leave?]
  split
  next => rw [if_pos (bne_iff_ne.mpr hmethod)]
  next => rfl

/-- A request that is neither a question for leave nor one for headers alone is told the
outcome of its answer, and it changes the state as the answer does. -/
theorem handle_eq_serve [Json.Room] [Catalog.Annotations] (service : Service σ)
    (state : State σ) {request : Request}
    (hmethod : request.method = Endpoint.get ∨ request.method = Endpoint.post)
    (hscheduled : (service.serve state request).scheduled = []) :
    (service.handle state request).response.status =
        (told (service.serve state request).outcome).status ∧
      (service.handle state request).response.content =
        (told (service.serve state request).outcome).content ∧
      (service.handle state request).state = (service.serve state request).state := by
  have hleave : CrossOrigin.leave? request = none := by
    apply leave?_of_method_ne
    rcases hmethod with hmethod | hmethod <;> rw [hmethod] <;> decide
  have hhead : (request.method == ("HEAD" : Text)) = false := by
    rw [beq_eq_false_iff_ne]
    rcases hmethod with hmethod | hmethod <;> rw [hmethod] <;> decide
  simp only [handle, hleave, told]
  cases sendable (service.serve state request).outcome with
  | error failure => exact ⟨rfl, rfl, rfl⟩
  | ok response =>
      simp [dressed, hhead, hscheduled, refreshEach, CrossOrigin.share, Response.withHeaders]

end Service

end ShortlinkCatalog
