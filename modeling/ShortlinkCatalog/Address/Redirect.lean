import ShortlinkCatalog.Address.Reading
import ShortlinkCatalog.Text.Encodable
import ShortlinkCatalog.Url.Reference

/-!
# Redirected addresses

A redirect leads to an address as it is seen from the one before.  A target without a
host is on the host of the base, and one without a fragment keeps that of the base.
An address can be requested only if its host can be written in ASCII and, if it is a
written domain name, be read.
-/

namespace ShortlinkCatalog.Address

/-- Why an address cannot be requested. -/
inductive Obstacle
  | invalid (error : Error)
  | unsplit (reason : Url.Reason)
  | domain (error : Domain.Error)
  | unencodable (error : Text.EncodeError)
deriving DecidableEq, Repr

def Obstacle.message : Obstacle → Text
  | .invalid error => error.message
  | .unsplit reason => reason.message
  | .domain error => error.message
  | .unencodable error => error.message

/-- The name of the kind of error. -/
def Obstacle.kind : Obstacle → Text
  | .invalid _ => "InvalidURL"
  | .unsplit _ => "ValueError"
  | .domain error => error.kind
  | .unencodable _ => Text.EncodeError.kind

/-- The host in its own characters. -/
def ownHost (address : Address) : Except Obstacle Text :=
  if (Text.dropStart? Domain.punycodeMark address.host).isSome then
    (Domain.decode address.host).mapError .domain
  else .ok address.host

/-- The address itself, if it can be requested. -/
def requestable (address : Address) : Except Obstacle Address := do
  match Text.asciiFault address.site with
  | some error => throw (.unencodable error)
  | none =>
      let _ ← address.ownHost
      return address

/-- The target on the host of the base, if it has a scheme but no host. -/
def onHostOf (base target : Address) : Except Obstacle Address := do
  if target.scheme.isEmpty then return target
  else if !(← target.ownHost).isEmpty then return target
  else (remake target.parts (some (← base.ownHost))).mapError .invalid

/-- The target as it is seen from the base, if it is relative. -/
def seenFrom (base target : Address) : Except Obstacle Address := do
  if target.isRelative then
    let text ← (Url.resolve base.render target.render).mapError .unsplit
    (parse text).mapError .invalid
  else return target

/-- The target with the fragment of the base, if it has none of its own. -/
def keepFragment (base target : Address) : Except Obstacle Address :=
  let read (address : Address) : Text := Percent.decode (address.fragment.getD [])
  if (read base).isEmpty || !(read target).isEmpty then .ok target
  else (remake { target.parts with fragment := some (read base) } none).mapError .invalid

/-- The address that a redirect from `base` to `target` leads to. -/
def redirect (base target : Address) : Except Obstacle Address := do
  let target ← onHostOf base target
  let target ← seenFrom base target
  let target ← keepFragment base target
  target.requestable

end ShortlinkCatalog.Address
