import ApiGateway.Gateway.State
import ApiGateway.Gateway.Cors

/-!
# Handling a request

A request passes a fixed line of checks, and the first that fails answers it:

1. the access policy, by the client's address and the path;
2. the rate limit, by the client's address and the request clock's second;
3. the circuit breaker, which refuses everything while open;
4. the token gate, unless the path is exempt;
5. the route of the path, which must have an endpoint of positive weight;
6. the body limit.

A request that passes them all carries the caller's identity and a request id to one
endpoint of its route. A transport failure answers `502 Bad gateway`; either that or a
server error from the backend counts as a failure for the breaker.

Every answer carries the cross-origin headers. A preflight (`OPTIONS`) request is answered
at once with an empty body and those headers alone, before any check, so it changes no
state.

Main statements:
* `serve_preflight`: a preflight request changes nothing.
* `dispatch_denied`: a request the policy refuses is answered 403 and changes nothing but
  due resets.
* `dispatch_open`: while the breaker is open, a request that passes the first two checks
  is refused without reaching a backend.
* `dispatch_of_outbound`: a request that passes every check is sent once, as prepared.
-/

namespace ApiGateway.Gateway

open ApiGateway.Http

namespace GatewayState

/-- Admits a request of a client under the rate limit, when there is one. -/
def passRateLimit (g : GatewayState) (ip : String) : Bool × GatewayState :=
  match g.limiter with
  | some rl =>
    let (ok, rl') := rl.allow ip g.clock.now
    (ok, { g with limiter := some rl' })
  | none => (true, g)

/-- The endpoint a draw chooses for a route, when the route has positive weight. -/
def chooseEndpoint (g : GatewayState) (env : Surroundings) (route : String) : Option Endpoint :=
  match g.registry.totalWeight? route with
  | some total => if total = 0 then none else g.registry.resolve route (env.draw total)
  | none => none

/-- Records how the backend answered: a transport failure or a server error counts. -/
def recordReply (g : GatewayState) (env : Surroundings) (reply : Option Response) :
    GatewayState :=
  let b := match reply with
    | some r => g.breaker.recordResponse env.timerMs r.status
    | none => g.breaker.recordFailure env.timerMs
  { g with breaker := b.settle env.timerMs }

/-- Prepares a request that passed the checks of access, rate and breaker for its backend:
the token gate, the identity and request id headers, the route and endpoint, and the body
limit. -/
def prepareFor (g : GatewayState) (env : Surroundings) (req : Request) (path : String) :
    Except GatewayError Outbound :=
  match g.authenticator.authenticate req.headers path env.now with
  | .error e => .error e
  | .ok identity =>
    let (_, headers) := ensureRequestId (attachIdentity req.headers identity) env.freshId
    let route := g.registry.routeFor path
    match g.chooseEndpoint env route with
    | none => .error (.routeNotFound route)
    | some ep => prepare { req with headers } ep.address g.maxBodyBytes

/-- Runs a request through every check: the request to send to its backend, or the error
that stopped it, and the state after the checks. -/
def outbound (g : GatewayState) (env : Surroundings) (req : Request) :
    Except GatewayError Outbound × GatewayState :=
  let g := g.settle env
  let path := req.uri.path
  let ip := clientIp req.headers req.peer
  match g.access.check ip path with
  | .error d => (.error (.forbidden d), g)
  | .ok () =>
    let (admitted, g) := g.passRateLimit ip
    if !admitted then (.error .rateLimited, g)
    else if !g.breaker.allows then (.error .circuitOpen, g)
    else (g.prepareFor env req path, g)

/-- Sends a prepared request once and records how the backend answered. -/
def exchange (g : GatewayState) (env : Surroundings) (out : Outbound) :
    Except GatewayError Response × GatewayState :=
  let reply := env.send out
  let g' := g.recordReply env reply
  match reply with
  | some r => (.ok (relay r), g')
  | none => (.error (.badGateway "error sending request"), g')

/-- Runs a request through the checks and on to a backend: the backend's reply or the
error that stopped it, and the new state. -/
def dispatch (g : GatewayState) (env : Surroundings) (req : Request) :
    Except GatewayError Response × GatewayState :=
  match g.outbound env req with
  | (.error e, g') => (.error e, g')
  | (.ok out, g') => g'.exchange env out

/-- Answers a request: a preflight at once, any other through the checks, an error as
its response, and every answer with the cross-origin headers. -/
def serve (g : GatewayState) (env : Surroundings) (req : Request) : Response × GatewayState :=
  if req.method = Method.options then (preflightResponse, g)
  else
    let (r, g') := g.dispatch env req
    let resp := match r with
      | .ok resp => resp
      | .error e => e.response
    (Response.withCors resp, g')

/-- A preflight request changes nothing. -/
theorem serve_preflight (g : GatewayState) (env : Surroundings) (req : Request)
    (h : req.method = Method.options) : g.serve env req = (preflightResponse, g) := by
  simp [serve, h]

/-- A request the policy refuses is answered 403 and changes nothing but due resets. -/
theorem dispatch_denied (g : GatewayState) (env : Surroundings) (req : Request) (d : Denial)
    (h : (g.settle env).access.check (clientIp req.headers req.peer) req.uri.path = .error d) :
    g.dispatch env req = (.error (.forbidden d), g.settle env) := by
  simp [dispatch, outbound, h]

/-- While the breaker is open, a request that passes the policy and the rate limit is
refused without reaching a backend. -/
theorem dispatch_open (g : GatewayState) (env : Surroundings) (req : Request)
    (hc : (g.settle env).access.check (clientIp req.headers req.peer) req.uri.path = .ok ())
    (ha : ((g.settle env).passRateLimit (clientIp req.headers req.peer)).1 = true)
    (hb : (g.settle env).breaker.allows = false) :
    (g.dispatch env req).1 = .error .circuitOpen := by
  have hb' :
      ((g.settle env).passRateLimit (clientIp req.headers req.peer)).2.breaker.allows = false := by
    unfold passRateLimit
    split <;> simpa using hb
  simp [dispatch, outbound, hc, ha, hb']

/-- A request that passes every check is sent once, as prepared. -/
theorem dispatch_of_outbound (g g' : GatewayState) (env : Surroundings) (req : Request)
    (out : Outbound) (h : g.outbound env req = (.ok out, g')) :
    g.dispatch env req = g'.exchange env out := by
  simp [dispatch, h]

end GatewayState

end ApiGateway.Gateway
