import ShortlinkCatalog.Domain.Label

/-!
# Domain names

A domain name is a sequence of labels separated by dots, of which there are four
characters; one dot at the end is kept.  Its ASCII form is what requests are sent to.
-/

namespace ShortlinkCatalog.Domain

/-- The full stop, the ideographic one, and their fullwidth and halfwidth forms. -/
def isDot (character : CodePoint) : Bool :=
  character == '.' || character == '\u3002' || character == '\uff0e' || character == '\uff61'

/-- The most characters that a name may have, without a dot at its end. -/
def maxLength : Nat := 253

/-- The labels of a name, and whether a dot follows the last one. -/
def labels (name : Text) : List Text × Bool :=
  let labels := Text.splitAll '.' (name.map fun character =>
    if isDot character then .char '.' else character)
  if labels.getLast? == some [] then (labels.dropLast, true) else (labels, false)

/-- Puts a label in the place of each label of a name. -/
def mapLabels (convert : Text → Except Error Text) (name : Text) : Except Error Text := do
  if maxLength + 1 < name.length then throw .domainTooLong
  else if name.isEmpty then throw .emptyDomain
  else
    let (labels, hasFinalDot) := labels name
    let labels ← labels.mapM convert
    return Text.join "." (labels ++ if hasFinalDot then [[]] else [])

/-- The characters that an ASCII name stands for. -/
def decode (name : Text) : Except Error Text := mapLabels readLabel name

/-- The ASCII form of a name. -/
def encode (name : Text) : Except Error Text := do
  let written ← mapLabels writeLabel name
  let limit := if (labels name).2 then maxLength + 1 else maxLength
  if limit < written.length then throw .domainTooLong else return written

end ShortlinkCatalog.Domain
