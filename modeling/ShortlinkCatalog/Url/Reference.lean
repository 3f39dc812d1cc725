import ShortlinkCatalog.Url.Parse

/-!
# References

A reference is a URL or a part of one, and names a place as it is seen from a base.
What it leaves out is taken from the base, and steps to the same or the parent
directory are taken.  The last segment of a path may carry parameters, which are not
part of its name.  References of schemes without directories name themselves.
-/

namespace ShortlinkCatalog.Url

/-- The schemes whose references are seen from a base. -/
def relativeSchemes : List Text :=
  ["", "ftp", "http", "gopher", "nntp", "imap", "wais", "file", "https", "shttp", "mms",
    "prospero", "rtsp", "rtspu", "sftp", "svn", "svn+ssh", "ws", "wss"]

/-- The schemes whose paths may carry parameters. -/
def parameterSchemes : List Text :=
  ["", "ftp", "hdl", "prospero", "http", "imap", "https", "shttp", "rtsp", "rtspu", "sip",
    "sips", "mms", "sftp", "tel"]

/-- A path without the parameters of its last segment, and these. -/
def splitParameters (scheme path : Text) : Text × Text :=
  let last := Text.afterLast '/' path
  if parameterSchemes.contains scheme && last.contains ';' then
    let (name, parameters) := Text.splitFirst ';' last
    (path.take (path.length - last.length) ++ name, parameters.getD [])
  else (path, [])

/-- The steps of a path, seen from a base path. -/
def stepsFrom (base path : Text) : List Text :=
  let steps := Text.splitAll '/' path
  if path.head? == some '/' then steps
  else
    let directory := Text.splitAll '/' base
    let directory := if directory.getLast? == some [] then directory else directory.dropLast
    match directory ++ steps with
    | [] => []
    | first :: rest => first :: rest.dropLast.filter (!·.isEmpty) ++ rest.getLast?.toList

def isDot (step : Text) : Bool := step == "."

def isDotDot (step : Text) : Bool := step == ".."

/-- The path that some steps lead to; a last step to a directory ends in a slash. -/
def walk (steps : List Text) : Text :=
  let taken := (steps.foldl (fun (taken : List Text) step =>
    if isDotDot step then taken.drop 1
    else if isDot step then taken
    else step :: taken) []).reverse
  let isDirectory := steps.getLast?.any fun step => isDot step || isDotDot step
  let path := Text.join "/" (if isDirectory then taken ++ [[]] else taken)
  if path.isEmpty then "/" else path

/-- Puts a URL together.  One with a scheme has an authority, even if it is empty. -/
def render (url : Url) : Text :=
  let hasAuthority := !url.authority.isEmpty
    || (!url.scheme.isEmpty && url.path.take 2 != "//")
  let scheme : Text := if url.scheme.isEmpty then [] else url.scheme ++ ":"
  let authority : Text := if hasAuthority then "//" ++ url.authority else []
  let root : Text :=
    if hasAuthority && !url.path.isEmpty && url.path.head? != some '/' then "/" else []
  let query : Text := if url.query.isEmpty then [] else "?" ++ url.query
  let fragment : Text := if url.fragment.isEmpty then [] else "#" ++ url.fragment
  scheme ++ authority ++ root ++ url.path ++ query ++ fragment

def withParameters (path parameters : Text) : Text :=
  if parameters.isEmpty then path else path ++ ";" ++ parameters

/-- What is wrong with an authority, so that it cannot be told from the rest. -/
def authorityFault (url : Url) : Option Reason :=
  (bracketFault url.authority).or (markFault url.authority)

/-- The URL that the reference `text` names, seen from the URL `base`. -/
def resolve (base text : Text) : Except Reason Text :=
  if base.isEmpty then .ok text
  else if text.isEmpty then .ok base
  else
    let origin := cut base
    let named := cut text
    match (authorityFault origin).or (authorityFault named) with
    | some reason => .error reason
    | none =>
        let scheme := if named.scheme.isEmpty then origin.scheme else named.scheme
        if scheme != origin.scheme || !relativeSchemes.contains scheme then .ok text
        else if !named.authority.isEmpty then
          let (path, parameters) := splitParameters scheme named.path
          .ok (render { named with scheme, path := withParameters path parameters })
        else
          let (path, parameters) := splitParameters scheme named.path
          let (basePath, baseParameters) := splitParameters scheme origin.path
          let named := { named with scheme, authority := origin.authority }
          if path.isEmpty && parameters.isEmpty then
            .ok (render { named with
              path := withParameters basePath baseParameters
              query := if named.query.isEmpty then origin.query else named.query })
          else
            .ok (render { named with
              path := withParameters (walk (stepsFrom basePath path)) parameters })

end ShortlinkCatalog.Url
