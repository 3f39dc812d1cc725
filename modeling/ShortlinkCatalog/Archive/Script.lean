import ShortlinkCatalog.Archive.Exchange

/-!
# Scripted archives

A script answers requests in order, the last outcome again and again, and notes
every request.  Without outcomes it answers with an empty table.
-/

namespace ShortlinkCatalog.Archive

structure Script where
  outcomes : List Outcome
  /-- The requests so far, the latest first. -/
  noted : List Request
deriving DecidableEq, Repr

namespace Script

def emptyTable : Outcome := .reply ⟨200, none, [0x5b, 0x5d]⟩

def ofOutcomes (outcomes : List Outcome) : Script := ⟨outcomes, []⟩

def requests (script : Script) : List Request := script.noted.reverse

def send : Sender Script := fun request script =>
  match script.outcomes with
  | [] => (emptyTable, { script with noted := request :: script.noted })
  | [outcome] => (outcome, { script with noted := request :: script.noted })
  | outcome :: outcomes => (outcome, ⟨outcomes, request :: script.noted⟩)

/-- The script with its requests forgotten. -/
def forget (script : Script) : Script := { script with noted := [] }

end Script

end ShortlinkCatalog.Archive
