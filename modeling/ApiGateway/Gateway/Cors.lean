import ApiGateway.Http.Message

/-!
# Cross-origin headers

Every response the gateway sends carries four permissive cross-origin headers, which
replace any values of the same names: any origin, the methods `GET, POST, PUT, DELETE,
OPTIONS`, the request headers `Content-Type, Authorization`, and credentials allowed.
A preflight request (method `OPTIONS`) is answered at once with status 200, an empty
body and only these headers.

Main statements:
* `applyCors_origin`: after applying, the origin header allows any origin.
-/

namespace ApiGateway.Gateway

open ApiGateway.Http

/-- The four cross-origin headers and their values. -/
def corsHeaders : List (HeaderName × HeaderValue) :=
  [(⟨"access-control-allow-origin"⟩, .ofText "*"),
   (⟨"access-control-allow-methods"⟩, .ofText "GET, POST, PUT, DELETE, OPTIONS"),
   (⟨"access-control-allow-headers"⟩, .ofText "Content-Type, Authorization"),
   (⟨"access-control-allow-credentials"⟩, .ofText "true")]

/-- Sets the four cross-origin headers, replacing existing values. -/
def applyCors (m : HeaderMap) : HeaderMap :=
  corsHeaders.foldl (fun acc h => acc.insert h.1 h.2) m

/-- The answer to a preflight request. -/
def preflightResponse : Response :=
  { status := 200, headers := applyCors HeaderMap.empty, body := [] }

/-- Adds the cross-origin headers to a response. -/
def Response.withCors (r : Response) : Response :=
  { r with headers := applyCors r.headers }

/-- Every response that passes the cross-origin layer allows any origin. -/
theorem applyCors_origin (m : HeaderMap) :
    (applyCors m).get? ⟨"access-control-allow-origin"⟩ = some (.ofText "*") := by
  simp [applyCors, corsHeaders, HeaderMap.get?_insert_of_ne]

end ApiGateway.Gateway
