import ShortlinkCatalog.Text.Basic

/-!
# Endpoints

An endpoint has one path and one method.  Paths are matched after their percent
escapes are undone, so an escaped slash separates; one line feed at the end of a path
is overlooked.  A known path with another method is told from an unknown path, and a
path with surplus slashes at its end is sent to the one without.
-/

namespace ShortlinkCatalog.Service

inductive Endpoint
  | about
  | health
  | shorteners
  | clean (name : Text)
  | refresh (name : Text)
  | refreshAll
  | shortcodes (name : Text)
  | releases
deriving DecidableEq, Repr

namespace Endpoint

def get : Text := "GET"
def post : Text := "POST"

def method : Endpoint → Text
  | .clean _ | .refresh _ | .refreshAll => post
  | .about | .health | .shorteners | .shortcodes _ | .releases => get

/-- The path of an endpoint. -/
def path : Endpoint → Text
  | .about => "/"
  | .health => "/health"
  | .shorteners => "/shorteners"
  | .clean name => ofShortener name "clean"
  | .refresh name => ofShortener name "refresh"
  | .refreshAll => "/refresh"
  | .shortcodes name => ofShortener name "shortcodes"
  | .releases => "/tinytown/releases"
where
  ofShortener (name : Text) (action : Text) : Text :=
    "/shorteners/" ++ name ++ "/" ++ action

/-- How often a client may use an endpoint in a window, if that is limited. -/
def limit? : Endpoint → Option Nat
  | .about | .health => none
  | .clean _ => some 60
  | .refresh _ | .refreshAll => some 5
  | .shorteners | .shortcodes _ | .releases => some 100

/-- The endpoints of one shortener, by the end of their path. -/
def ofShortener? (name action : Text) : Option Endpoint :=
  if name.isEmpty then none
  else if action == "clean" then some (.clean name)
  else if action == "refresh" then some (.refresh name)
  else if action == "shortcodes" then some (.shortcodes name)
  else none

/-- The endpoint with exactly this path. -/
def withPath? (path : Text) : Option Endpoint :=
  match [about, health, shorteners, refreshAll, releases].find? (·.path == path) with
  | some endpoint => some endpoint
  | none =>
      match (Text.dropStart? "/shorteners/" path).map (Text.splitFirst '/') with
      | some (name, some action) => ofShortener? name action
      | _ => none

/-- The endpoint that a path leads to. -/
def ofPath? (path : Text) : Option Endpoint := withPath? (Text.dropOneEnd '\n' path)

end Endpoint

/-- Where a method and a path lead. -/
inductive Routing
  | endpoint (endpoint : Endpoint)
  | otherMethod (allowed : Text)
  | moved (path : Text)
  | unknown
deriving DecidableEq, Repr

def route (method path : Text) : Routing :=
  match Endpoint.ofPath? path with
  | some endpoint =>
      if method == endpoint.method then .endpoint endpoint else .otherMethod endpoint.method
  | none =>
      let bare := Text.trimEnd (· == '/') path
      if path.getLast? == some '/' && (Endpoint.ofPath? bare).isSome then .moved bare
      else .unknown

end ShortlinkCatalog.Service
