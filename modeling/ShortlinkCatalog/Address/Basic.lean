import ShortlinkCatalog.Text.Basic

/-!
# Addresses

An address is what a request is sent to.  Unlike an observed URL it is normalised:
scheme and host are in lower case, the default port of the scheme is left out, and
characters that may not stand in a part are percent-encoded.  Absent and empty queries
differ, and so do absent and empty fragments.
-/

namespace ShortlinkCatalog

structure Address where
  scheme : Text
  user : Text
  host : Text
  port : Option Int
  path : Text
  query : Option Text
  fragment : Option Text
deriving DecidableEq, Repr

namespace Address

def empty : Address := ⟨[], [], [], none, [], none, none⟩

/-- A mark and what follows it, if there is something. -/
def marked (mark : Text) : Option Text → Text
  | none => []
  | some text => mark ++ text

/-- Host and port; only addresses of IPv6 have colons, and stand in brackets. -/
def site (address : Address) : Text :=
  let host := if address.host.contains ':' then "[" ++ address.host ++ "]" else address.host
  host ++ marked ":" (address.port.map Text.ofInt)

def authority (address : Address) : Text :=
  if address.user.isEmpty then address.site else address.user ++ "@" ++ address.site

/-- An address without a scheme or without a host names a place only as seen from another
one. -/
def isRelative (address : Address) : Bool := address.scheme.isEmpty || address.host.isEmpty

/-- Path and query; the path of a site itself is a slash. -/
def target (address : Address) : Text :=
  let path : Text := if address.path.isEmpty then "/" else address.path
  path ++ marked "?" address.query

def render (address : Address) : Text :=
  let scheme : Text := if address.scheme.isEmpty then [] else address.scheme ++ ":"
  let authority : Text := if address.authority.isEmpty then [] else "//" ++ address.authority
  scheme ++ authority ++ address.path ++ marked "?" address.query
    ++ marked "#" address.fragment

end Address

end ShortlinkCatalog
