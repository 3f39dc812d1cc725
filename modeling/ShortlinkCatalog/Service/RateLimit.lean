import ShortlinkCatalog.Text.Basic

/-!
# Rate limits

These are the fixed windows of slowapi as its documentation has them: the visits of one
client to one path are counted from the first of them on until the minute is over, and a
visit is let in while the count is within the limit of the endpoint.  The path is that of
the request and not that of the route, so the limits of different paths and of different
clients do not touch.  The library counts refused visits too, which changes nothing: once
the limit is reached it stays so until the window closes.  So a window remembers the
visits that were admitted since it opened.
-/

namespace ShortlinkCatalog.Service

structure Visit where
  client : Text
  path : Text
deriving DecidableEq, Repr

abbrev Window := List Visit

namespace Window

/-- Lets a visit in if fewer than `limit` like it were admitted before. -/
def enter (limit : Nat) (visit : Visit) (window : Window) : Bool × Window :=
  if window.count visit < limit then (true, visit :: window) else (false, window)

end Window

end ShortlinkCatalog.Service
