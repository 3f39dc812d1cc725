import ShortlinkCatalog.Archive.KnownCodes

/-!
# Steady archives

An archive is steady if its answers are a function of the request, so that it makes no
difference what it was asked before.  The answers can still be anything.  An exchange with
such an archive, over all its redirects, ends as one with the archive that has the same
answers and no state, and so does a fetch.
-/

namespace ShortlinkCatalog.Archive

variable {σ : Type} {send : Sender σ} {reply : Request → Outcome}

/-- An archive that answers each request as the function says. -/
def Answers (send : Sender σ) (reply : Request → Outcome) : Prop :=
  ∀ request state, (send request state).1 = reply request

/-- The archive that is nothing but its answers. -/
def stateless (reply : Request → Outcome) : Sender Unit := fun request _ => (reply request, ())

theorem answers_stateless (reply : Request → Outcome) : Answers (stateless reply) reply :=
  fun _ _ => rfl

theorem send_eq_of_answers (hanswers : Answers send reply) (request : Request) (state : σ) :
    send request state = (reply request, (send request state).2) :=
  Prod.ext (hanswers request state) rfl

/-- One step of an exchange. -/
theorem follow_eq (send : Sender σ) (redirects : Nat) (request : Request) (state : σ) :
    follow send redirects request state =
      match send request state with
      | (.reply reply, state) =>
          match reply.next request.address with
          | .done outcome => (outcome, state)
          | .goTo address =>
              match redirects with
              | 0 => (tooManyRedirects, state)
              | left + 1 => follow send left { request with address } state
      | answer => answer := by
  -- the recursion computes here, which is much faster than its generated equation
  cases redirects <;> delta follow <;> rfl

theorem fst_follow_eq_stateless (hanswers : Answers send reply) (redirects : Nat)
    (request : Request) (state : σ) :
    (follow send redirects request state).1 =
      (follow (stateless reply) redirects request ()).1 := by
  induction redirects generalizing request state with
  | zero =>
      rw [follow_eq, follow_eq, send_eq_of_answers hanswers, stateless]
      cases reply request with
      | reply found => cases hnext : found.next request.address <;> simp [hnext]
      | _ => rfl
  | succ redirects ih =>
      rw [follow_eq, follow_eq, send_eq_of_answers hanswers, stateless]
      cases reply request with
      | reply found => cases hnext : found.next request.address <;> simp [hnext, ih]
      | _ => rfl

theorem fst_get_eq_stateless (hanswers : Answers send reply) (userAgent url : Text)
    (fields : Form.Fields) (state : σ) :
    (get send userAgent url fields state).1 =
      (get (stateless reply) userAgent url fields ()).1 := by
  simp only [get]
  cases addressOf url fields with
  | error obstacle => rfl
  | ok address => exact fst_follow_eq_stateless hanswers maxRedirects _ state

variable [Json.Room]

/-- The result and the report of a fetch are those of a fetch from the answers alone. -/
theorem knownCodes_eq_stateless (hanswers : Answers send reply) (settings : Settings)
    (shortener : Shortener) (state : σ) :
    (knownCodes send settings shortener state).1 =
        (knownCodes (stateless reply) settings shortener ()).1 ∧
      (knownCodes send settings shortener state).2.1 =
        (knownCodes (stateless reply) settings shortener ()).2.1 := by
  have hget := fst_get_eq_stateless hanswers settings.userAgent settings.timemapUrl
    ((knownCodesOptions settings).parameters shortener.host) state
  simp only [knownCodes, timemap, orDefault, hget]
  cases captures shortener.host _ with
  | error error => exact ⟨rfl, rfl⟩
  | ok captured => cases hcodes : codesOfRows shortener (captured.getD []) <;> simp [hcodes]

end ShortlinkCatalog.Archive
