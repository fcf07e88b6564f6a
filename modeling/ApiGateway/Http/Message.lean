import ApiGateway.Http.Header
import ApiGateway.Http.Method
import ApiGateway.Http.Uri
import ApiGateway.Http.Address

/-!
# Requests and responses

A request carries its method, target, headers, body bytes and, when known, the peer's
socket address. A response carries a status code, headers and body bytes. Statuses
fall into five classes by their hundreds digit; every code outside 100 to 499 counts
as a server error.
-/

namespace ApiGateway.Http

/-- An incoming request. -/
structure Request where
  /-- The method. -/
  method : Method
  /-- The target. -/
  uri : Uri
  /-- The header fields. -/
  headers : HeaderMap
  /-- The body bytes. -/
  body : List UInt8
  /-- The peer's socket address, when the connection has one. -/
  peer : Option SocketAddress
  deriving Repr

/-- A response. -/
structure Response where
  /-- The status code. -/
  status : Nat
  /-- The header fields. -/
  headers : HeaderMap
  /-- The body bytes. -/
  body : List UInt8
  deriving Repr

/-- The class of a status code. -/
inductive StatusClass where
  | informational
  | success
  | redirection
  | clientError
  | serverError
  deriving DecidableEq, Repr

namespace StatusClass

/-- The class of a code: by its hundreds digit from 100 to 499, a server error otherwise. -/
def ofCode (code : Nat) : StatusClass :=
  if code < 100 then .serverError
  else if code < 200 then .informational
  else if code < 300 then .success
  else if code < 400 then .redirection
  else if code < 500 then .clientError
  else .serverError

/-- The class's short label. -/
def label : StatusClass → String
  | .informational => "1xx"
  | .success => "2xx"
  | .redirection => "3xx"
  | .clientError => "4xx"
  | .serverError => "5xx"

end StatusClass

/-- Whether a status code reports a server error: 500 to 599. -/
def isServerError (code : Nat) : Bool := 500 ≤ code && code ≤ 599

end ApiGateway.Http
