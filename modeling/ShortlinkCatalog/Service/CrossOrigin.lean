import ShortlinkCatalog.Service.Response

/-!
# Requests across origins

A browser says where the page that sends a request comes from.  Every origin may use
the service, with credentials, so its name is given back to it.  Before some requests
a browser asks for leave; the answer names the methods that exist and repeats the
headers that were asked for.  Nobody gets leave to enter a private network.
-/

namespace ShortlinkCatalog.Service.CrossOrigin

def methods : List Text :=
  ["DELETE", "GET", "HEAD", "OPTIONS", "PATCH", "POST", "PUT", "QUERY"]

/-- The headers that let an origin read a response. -/
def grant (origin : Text) : Headers :=
  [("access-control-allow-origin", origin), ("access-control-allow-credentials", "true")]

/-- The headers that answers to questions for leave depend on. -/
def questionHeaders : Text :=
  "Origin, Access-Control-Request-Method, Access-Control-Request-Headers, "
    ++ "Access-Control-Request-Private-Network"

/-- What of a question for leave is refused: a method that does not exist, and the way
into a private network, whatever is asked of it. -/
def refused (request : Request) (method : Text) : List Text :=
  let network := request.header? "access-control-request-private-network"
  let method : List Text := if methods.contains method then [] else ["method"]
  let network : List Text := if network.isSome then ["private-network"] else []
  method ++ network

/-- The answer to a question for leave, if a request is one. -/
def leave? (request : Request) : Option Response :=
  match request.header? "origin", request.header? "access-control-request-method" with
  | some origin, some method =>
      if request.method != "OPTIONS" then none
      else
        let response := match refused request method with
          | [] => Response.ofText 200 "OK"
          | parts => Response.ofText 400 ("Disallowed CORS " ++ Text.join ", " parts)
        let repeated : Headers := match request.header? "access-control-request-headers" with
          | none => []
          | some headers => [("access-control-allow-headers", headers)]
        let told : Headers :=
          [("access-control-allow-methods", Text.join ", " methods), ("vary", questionHeaders)]
        some (response.withHeaders (grant origin ++ told ++ repeated))
  | _, _ => none

/-- The response with what its origin needs to read it. -/
def share (request : Request) (response : Response) : Response :=
  let granted := match request.header? "origin" with
    | none => []
    | some origin => grant origin
  response.withHeaders (("vary", "Origin") :: granted)

end ShortlinkCatalog.Service.CrossOrigin
