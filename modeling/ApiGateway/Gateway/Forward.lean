import ApiGateway.Http.Message
import ApiGateway.Routing.Endpoint
import ApiGateway.Gateway.Error
import ApiGateway.Gateway.Client

/-!
# Passing a request on to a backend

A request that passed every check is sent to one endpoint of its route:

* the target is `http://`, the endpoint's address and the request's path and query
  (`/` when it has none);
* the body may hold at most the configured number of bytes; a longer one is refused
  before anything is sent;
* the headers that belong to one connection (`connection`, `keep-alive`, the proxy
  headers, `te`, `trailer`, `transfer-encoding`, `upgrade`) and `host` are dropped;
* the peer's address joins the `x-forwarded-for` chain: after the first value when that
  is non-empty visible text, and as the whole value otherwise.

The reply passes back to the client with the connection headers dropped in turn.

Main statements:
* `stripHopByHop_getAll`: no connection header survives the strip.
* `prepare_tooLarge`: a body over the limit is refused and nothing is sent.
-/

namespace ApiGateway.Gateway

open ApiGateway.Http

/-- The headers that belong to one connection and are never passed on. -/
def hopByHopHeaders : List HeaderName :=
  [⟨"connection"⟩, ⟨"keep-alive"⟩, ⟨"proxy-authenticate"⟩, ⟨"proxy-authorization"⟩,
    ⟨"proxy-connection"⟩, ⟨"te"⟩, ⟨"trailer"⟩, ⟨"transfer-encoding"⟩, ⟨"upgrade"⟩]

/-- The header that names the host a request was sent to. -/
def hostHeader : HeaderName := ⟨"host"⟩

/-- Drops every connection header. -/
def stripHopByHop (m : HeaderMap) : HeaderMap :=
  hopByHopHeaders.foldl HeaderMap.remove m

/-- Adds a peer to the forwarded chain: after the first value when that is non-empty
visible text, as the whole value otherwise. -/
def appendForwardedFor (headers : HeaderMap) (peerIp : String) : HeaderMap :=
  let chain := match firstText? headers forwardedForHeader with
    | some old => old ++ ", " ++ peerIp
    | none => peerIp
  match HeaderValue.ofString? chain with
  | some v => headers.insert forwardedForHeader v
  | none => headers

/-- The address a request is sent to at an endpoint. -/
def targetUrl (address : String) (u : Uri) : String :=
  "http://" ++ address ++ (u.pathAndQuery?.getD "/")

/-- A request on its way to a backend. -/
structure Outbound where
  /-- The method. -/
  method : Method
  /-- The target address. -/
  url : String
  /-- The header fields passed on. -/
  headers : HeaderMap
  /-- The body bytes. -/
  body : List UInt8
  deriving Repr

/-- The refusal of a body over the limit. -/
def bodyTooLarge : GatewayError :=
  .invalidRequest "Failed to read request body: length limit exceeded"

/-- Makes the request for an endpoint, or refuses a body longer than `maxBody` bytes. -/
def prepare (req : Request) (address : String) (maxBody : Nat) : Except GatewayError Outbound :=
  if maxBody < req.body.length then .error bodyTooLarge
  else
    let headers := (stripHopByHop req.headers).remove hostHeader
    let headers := match req.peer with
      | some a => appendForwardedFor headers a.ip.render
      | none => headers
    .ok ⟨req.method, targetUrl address req.uri, headers, req.body⟩

/-- A backend's reply as the client receives it: the connection headers dropped. -/
def relay (r : Response) : Response :=
  { r with headers := stripHopByHop r.headers }

/-- Removing a header from a map without it, or any other, keeps it absent. -/
theorem getAll_foldl_remove (names : List HeaderName) (m : HeaderMap) (n : HeaderName)
    (h : m.getAll n = []) : (names.foldl HeaderMap.remove m).getAll n = [] := by
  induction names generalizing m with
  | nil => simpa using h
  | cons k rest ih =>
    apply ih
    by_cases hk : n = k
    · subst hk
      exact HeaderMap.getAll_remove m n
    · rw [HeaderMap.getAll_remove_of_ne m hk]
      exact h

/-- Removing a list of headers leaves none of them. -/
theorem getAll_foldl_remove_mem (names : List HeaderName) (m : HeaderMap) (n : HeaderName)
    (hn : n ∈ names) : (names.foldl HeaderMap.remove m).getAll n = [] := by
  induction names generalizing m with
  | nil => simp at hn
  | cons k rest ih =>
    simp only [List.foldl_cons]
    rcases List.mem_cons.1 hn with hk | hr
    · subst hk
      exact getAll_foldl_remove rest _ n (HeaderMap.getAll_remove m n)
    · exact ih _ hr

/-- No connection header survives the strip. -/
theorem stripHopByHop_getAll (m : HeaderMap) (n : HeaderName) (hn : n ∈ hopByHopHeaders) :
    (stripHopByHop m).getAll n = [] :=
  getAll_foldl_remove_mem hopByHopHeaders m n hn

/-- A body over the limit is refused and nothing is sent. -/
theorem prepare_tooLarge (req : Request) (address : String) (maxBody : Nat)
    (h : maxBody < req.body.length) : prepare req address maxBody = .error bodyTooLarge := by
  simp [prepare, h]

end ApiGateway.Gateway
