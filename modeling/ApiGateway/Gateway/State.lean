import ApiGateway.Config.Basic
import ApiGateway.Data.NameSet
import ApiGateway.Json.Writer
import ApiGateway.Routing.Registry
import ApiGateway.Access.Policy
import ApiGateway.Traffic.Clock
import ApiGateway.Traffic.RateLimiter
import ApiGateway.Traffic.Breaker
import ApiGateway.Gateway.Identity
import ApiGateway.Gateway.Forward

/-!
# The gateway's state

A running gateway holds the route registry, the access policy, the rate limiter (only
when rate limiting is on), the circuit breaker, the token gate, the body limit and the
request clock. It is started from the settings and fails only when the token authority
refuses them; the other checks of the settings are not repeated here.

The gateway meets the world outside through its surroundings: the draws that choose
among a route's endpoints, the ids given to requests that bring none, the backends'
replies, the wall clock that tokens expire by, and the breaker's timer. The breaker's
cool-down runs on that timer, not on the request clock.

The health report names the breaker's phase and its failure count.

Main statements:
* `new_limiter`: the rate limiter exists exactly when rate limiting is on.
* `new_breaker`: a new gateway's breaker is closed with no failures.
-/

namespace ApiGateway.Gateway

open ApiGateway.Http ApiGateway.Config ApiGateway.Token

/-- What the gateway meets outside itself. -/
structure Surroundings where
  /-- A draw below a positive total weight. -/
  draw : Nat → Nat
  /-- A fresh request id. -/
  freshId : String
  /-- A backend's reply, or none when the request cannot be delivered. -/
  send : Outbound → Option Response
  /-- The wall clock in seconds since the epoch, by which tokens expire. -/
  now : Nat
  /-- The breaker's timer in milliseconds. -/
  timerMs : Nat

/-- Surroundings in which no backend can be reached and the breaker's timer stands
still. -/
def Surroundings.unreachable (freshId : String) (now : Nat) : Surroundings :=
  ⟨fun _ => 0, freshId, fun _ => none, now, 0⟩

/-- A running gateway. -/
structure GatewayState where
  /-- Routes and their endpoints. -/
  registry : Registry
  /-- Who may reach which paths. -/
  access : AccessPolicy
  /-- Requests per client and second, when rate limiting is on. -/
  limiter : Option RateLimiter
  /-- The circuit breaker guarding all backends. -/
  breaker : Breaker
  /-- The token gate. -/
  authenticator : Authenticator
  /-- The largest request body passed on, in bytes. -/
  maxBodyBytes : Nat
  /-- The clock that rate limiting counts seconds by. -/
  clock : Clock

namespace GatewayState

/-- Starts a gateway from the settings and the request clock. -/
def new (s : Settings) (clock : Clock) : Except AuthorityError GatewayState := do
  let authority ← TokenAuthority.new s.token
  pure
    { registry := Registry.ofSettings s.routing
      access := AccessPolicy.ofSettings s.access
      limiter := if s.rate.enabled then some (RateLimiter.new s.rate.perSecond) else none
      breaker := Breaker.new s.breaker.failureThreshold.toUInt32 s.breaker.coolDownSecs
      authenticator := ⟨authority, NameSet.ofList s.token.exemptPaths⟩
      maxBodyBytes := s.client.maxBodyBytes
      clock }

/-- Carries out a breaker reset that has fallen due on the timer. -/
def settle (g : GatewayState) (env : Surroundings) : GatewayState :=
  { g with breaker := g.breaker.settle env.timerMs }

/-- The health report as a JSON text: the breaker's phase and failure count. -/
def healthBody (g : GatewayState) : String :=
  Json.object [("circuit", Json.quote (if g.breaker.isClosed then "closed" else "open")),
    ("failure_count", Json.int g.breaker.failures.toNat), ("status", Json.quote "ok")]

/-- The health report as a response. -/
def healthResponse (g : GatewayState) : Response :=
  { status := 200
    headers := HeaderMap.empty.insert GatewayError.contentType (.ofText "application/json")
    body := g.healthBody.toUTF8.toList }

/-- The rate limiter exists exactly when rate limiting is on. -/
theorem new_limiter (s : Settings) (clock : Clock) (g : GatewayState)
    (h : new s clock = .ok g) : g.limiter.isSome = s.rate.enabled := by
  unfold new at h
  cases ha : TokenAuthority.new s.token with
  | error e => rw [ha] at h; cases h
  | ok a =>
    simp only [ha] at h
    cases h
    cases s.rate.enabled <;> rfl

/-- A new gateway's breaker is closed with no failures. -/
theorem new_breaker (s : Settings) (clock : Clock) (g : GatewayState)
    (h : new s clock = .ok g) : g.breaker.isClosed = true ∧ g.breaker.failures = 0 := by
  unfold new at h
  cases ha : TokenAuthority.new s.token with
  | error e => rw [ha] at h; cases h
  | ok a =>
    simp only [ha] at h
    cases h
    exact ⟨rfl, rfl⟩

end GatewayState

end ApiGateway.Gateway
