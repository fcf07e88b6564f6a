import ApiGateway.Access.Policy
import ApiGateway.Http.Message
import ApiGateway.Json.Writer

/-!
# Gateway errors

A request the gateway refuses or cannot serve ends in a `GatewayError`. Each kind has a
status code, a message for the client, a code for programs and a sentence for logs. The
client sees a JSON body `{"error": message, "error_code": code, "status": status}` with
the JSON content type.
-/

namespace ApiGateway.Gateway

open ApiGateway.Http

/-- Why the gateway refused or could not serve a request. -/
inductive GatewayError where
  /-- The access policy refused the client. -/
  | forbidden (denial : Denial)
  /-- The client used up its requests for this second. -/
  | rateLimited
  /-- The breaker is open. -/
  | circuitOpen
  /-- The request carries no usable token; the text says why. -/
  | unauthorized (reason : String)
  /-- The route has no endpoint to send to. -/
  | routeNotFound (route : String)
  /-- Sending to the backend failed. -/
  | badGateway (reason : String)
  /-- The request itself is unusable. -/
  | invalidRequest (reason : String)
  /-- The gateway failed inside. -/
  | internal (reason : String)
  deriving DecidableEq, Repr

namespace GatewayError

/-- The status code. -/
def status : GatewayError → Nat
  | .forbidden _ => 403
  | .rateLimited => 429
  | .circuitOpen => 503
  | .unauthorized _ => 401
  | .routeNotFound _ => 404
  | .badGateway _ => 502
  | .invalidRequest _ => 400
  | .internal _ => 500

/-- The message shown to the client. -/
def userMessage : GatewayError → String
  | .forbidden d => "Forbidden: " ++ d.reason
  | .rateLimited => "Too many requests"
  | .circuitOpen => "Service unavailable"
  | .unauthorized r => r
  | .routeNotFound _ => "Not found"
  | .badGateway _ => "Bad gateway"
  | .invalidRequest r => r
  | .internal _ => "Internal server error"

/-- The code for programs. -/
def code : GatewayError → String
  | .forbidden d => d.code
  | .rateLimited => "RATE_LIMITED"
  | .circuitOpen => "CIRCUIT_OPEN"
  | .unauthorized _ => "UNAUTHORIZED"
  | .routeNotFound _ => "ROUTE_NOT_FOUND"
  | .badGateway _ => "UPSTREAM_ERROR"
  | .invalidRequest _ => "INVALID_REQUEST"
  | .internal _ => "INTERNAL_ERROR"

/-- The sentence for logs. -/
def describe : GatewayError → String
  | .forbidden d => "Access denied: " ++ d.reason
  | .rateLimited => "Rate limit exceeded"
  | .circuitOpen => "Circuit breaker is open - service is unavailable"
  | .unauthorized r => "Authentication error: " ++ r
  | .routeNotFound route => "No endpoint available for route '" ++ route ++ "'"
  | .badGateway r => "Upstream error: " ++ r
  | .invalidRequest r => "Invalid request: " ++ r
  | .internal r => "Internal server error: " ++ r

/-- The JSON body shown to the client. -/
def body (e : GatewayError) : String :=
  Json.object [("error", Json.quote e.userMessage), ("error_code", Json.quote e.code),
    ("status", Json.int e.status)]

/-- The name of the content type header. -/
def contentType : HeaderName := ⟨"content-type"⟩

/-- The response that reports the error to the client. -/
def response (e : GatewayError) : Response :=
  { status := e.status
    headers := HeaderMap.empty.insert contentType (HeaderValue.ofText "application/json")
    body := e.body.toUTF8.toList }

end GatewayError

/-- The response for a failure caught inside request handling: whatever the failure
carried, the client sees only an internal error. -/
def panicResponse : Response :=
  (GatewayError.internal "request handler panicked").response

end ApiGateway.Gateway
