import Mathlib
import ApiGateway.Gateway.Dispatch

/-!
# The request pipeline, stage by stage

A request meets the gateway's checks in a fixed order, and the first that fails answers it:
the access policy (403), the rate limit (429), the breaker (503), the token gate (401), the
route (404) and the body limit (400). A request that passes them all is sent once to the
endpoint its route draws; the answer is the backend's reply, or 502 when it cannot be
delivered, and either is recorded in the breaker.

`Handled` states these rules as a relation over the state in which the request arrives, any
breaker reset that has fallen due already made. `dispatch_eq_iff_handled` shows that
`dispatch` follows them exactly, the final state included: counting the request in its
client's slot is the only change before the forward, and the breaker's record of the answer
the only change after it.

## Implementation notes

The draw that chooses an endpoint stands for the service's random choice below a route's total
weight. The rules take it to lie below that total, as the random source promises; a draw past
it would make a route of positive weight unroutable.
-/

namespace ApiGateway.Gateway

open ApiGateway.Http ApiGateway.Token

/-- The draws lie below the total weight they are drawn for. -/
def Surroundings.DrawsBelowTotal (env : Surroundings) : Prop := ∀ t, 0 < t → env.draw t < t

/-! ## The token gate -/

namespace Authenticator

variable (a : Authenticator) (headers : HeaderMap) (path : String) (now : Nat)

/-- The token gate lets a request through with an identity: none on an exempt path, and on
any other the identity in a bearer token that the authority accepts. -/
inductive Passes : Option Identity → Prop
  | exempt : a.isExempt path = true → Passes none
  | verified (token : String) (c : Claims) : a.isExempt path = false →
      bearerToken? headers = some token → a.authority.verify now token = .ok c →
      Passes (some ⟨c.subjectId, c.role⟩)

/-- The token gate refuses a request on a path that is not exempt, with the message the
client sees: there is no usable bearer token, or the authority rejects it. -/
inductive Refuses : String → Prop
  | missing : a.isExempt path = false → bearerToken? headers = none →
      Refuses "Missing bearer token"
  | invalid (token : String) (e : TokenError) : a.isExempt path = false →
      bearerToken? headers = some token → a.authority.verify now token = .error e →
      Refuses ("Invalid token: " ++ e.message)

variable {a headers path now}

/-- The token gate lets a request through, with an identity or none, exactly when it passes. -/
theorem authenticate_eq_ok_iff {identity : Option Identity} :
    a.authenticate headers path now = .ok identity ↔ a.Passes headers path now identity := by
  constructor
  · intro h
    cases hx : a.isExempt path with
    | true =>
      simp only [authenticate, hx, if_true, Except.ok.injEq] at h
      subst h
      exact .exempt hx
    | false =>
      cases ht : bearerToken? headers with
      | none => simp [authenticate, hx, ht] at h
      | some token =>
        cases hv : a.authority.verify now token with
        | error e => simp [authenticate, hx, ht, hv] at h
        | ok c =>
          simp only [authenticate, hx, ht, hv, Bool.false_eq_true, if_false,
            Except.ok.injEq] at h
          subst h
          exact .verified token c hx ht hv
  · rintro (hx | ⟨token, c, hx, ht, hv⟩)
    · simp [authenticate, hx]
    · simp [authenticate, hx, ht, hv]

/-- The token gate refuses a request exactly with an unauthorized error whose message names the
reason it refuses. -/
theorem authenticate_eq_error_iff {e : GatewayError} :
    a.authenticate headers path now = .error e ↔
      ∃ msg, e = .unauthorized msg ∧ a.Refuses headers path now msg := by
  constructor
  · intro h
    cases hx : a.isExempt path with
    | true => simp [authenticate, hx] at h
    | false =>
      cases ht : bearerToken? headers with
      | none =>
        simp only [authenticate, hx, ht, Bool.false_eq_true, if_false,
          Except.error.injEq] at h
        exact ⟨_, h.symm, .missing hx ht⟩
      | some token =>
        cases hv : a.authority.verify now token with
        | error err =>
          simp only [authenticate, hx, ht, hv, Bool.false_eq_true, if_false,
            Except.error.injEq] at h
          exact ⟨_, h.symm, .invalid token err hx ht hv⟩
        | ok c => simp [authenticate, hx, ht, hv] at h
  · rintro ⟨msg, rfl, hr⟩
    cases hr with
    | missing hx ht => simp [authenticate, hx, ht]
    | invalid token err hx ht hv => simp [authenticate, hx, ht, hv]

end Authenticator

/-! ## The checks before the token gate -/

namespace GatewayState

variable (g : GatewayState) (env : Surroundings) (req : Request)

/-- The client address that the checks key on. -/
def client (req : Request) : String := clientIp req.headers req.peer

/-- The rate limit admits the request and `g'` has it counted: with rate limiting off nothing
is counted, and otherwise the limiter admits the client in the clock's current second. -/
def RateAdmits (g' : GatewayState) : Prop :=
  (g.limiter = none ∧ g' = g) ∨
    ∃ rl rl', g.limiter = some rl ∧ rl.allow (client req) g.clock.now = (true, rl') ∧
      g' = { g with limiter := some rl' }

/-- Rate limiting is on and the limiter refuses the client in the current second. -/
def RateRefuses : Prop :=
  ∃ rl, g.limiter = some rl ∧ (rl.allow (client req) g.clock.now).1 = false

/-- The request passes the access policy, the rate limit and the breaker, and `g'` has it
counted. -/
def Admitted (g' : GatewayState) : Prop :=
  g.access.check (client req) req.uri.path = .ok () ∧ g.RateAdmits req g' ∧
    g.breaker.allows = true

variable {g req}

/-- Without a limiter every client passes and nothing changes. -/
theorem passRateLimit_of_none (hl : g.limiter = none) (ip : String) :
    g.passRateLimit ip = (true, g) := by
  simp [passRateLimit, hl]

/-- With a limiter, the client passes as the limiter decides, and the limiter is the one after
its decision. -/
theorem passRateLimit_of_some {rl : RateLimiter} (hl : g.limiter = some rl) (ip : String) :
    g.passRateLimit ip =
      ((rl.allow ip g.clock.now).1, { g with limiter := some (rl.allow ip g.clock.now).2 }) := by
  simp [passRateLimit, hl]

/-- The rate limit lets a request through exactly when it admits it into the given state. -/
theorem passRateLimit_eq_true_iff {g' : GatewayState} :
    g.passRateLimit (client req) = (true, g') ↔ g.RateAdmits req g' := by
  unfold RateAdmits
  cases hl : g.limiter with
  | none =>
    rw [passRateLimit_of_none hl]
    simp only [Prod.mk.injEq, true_and, reduceCtorEq, false_and, exists_false, or_false]
    exact eq_comm
  | some rl =>
    rw [passRateLimit_of_some hl]
    simp only [Prod.mk.injEq, reduceCtorEq, false_and, false_or, Option.some.injEq,
      exists_and_left, exists_eq_left']
    cases rl.allow (client req) g.clock.now with
    | mk ok rl' =>
      simp only [Prod.mk.injEq]
      constructor
      · rintro ⟨rfl, rfl⟩
        exact ⟨rl', ⟨rfl, rfl⟩, rfl⟩
      · rintro ⟨rl'', ⟨rfl, rfl⟩, rfl⟩
        exact ⟨rfl, rfl⟩

/-- The rate limit refuses a request exactly when the limiter refuses the client, and then the
state is unchanged. -/
theorem passRateLimit_eq_false_iff {g' : GatewayState} :
    g.passRateLimit (client req) = (false, g') ↔ g.RateRefuses req ∧ g' = g := by
  unfold RateRefuses
  cases hl : g.limiter with
  | none =>
    rw [passRateLimit_of_none hl]
    simp
  | some rl =>
    rw [passRateLimit_of_some hl]
    simp only [Prod.mk.injEq, Option.some.injEq, exists_eq_left']
    -- a refusal leaves the limiter as it was, so the state is the one before
    have hsame : (rl.allow (client req) g.clock.now).1 = false →
        { g with limiter := some (rl.allow (client req) g.clock.now).2 } = g := by
      intro hf
      rw [RateLimiter.allow_refused rl _ _ hf, ← hl]
    constructor
    · rintro ⟨hf, rfl⟩
      exact ⟨hf, hsame hf⟩
    · rintro ⟨hf, rfl⟩
      exact ⟨hf, hsame hf⟩

/-- Counting a request touches the limiter only. -/
theorem RateAdmits.breaker {g' : GatewayState} (h : g.RateAdmits req g') :
    g'.breaker = g.breaker := by
  rcases h with ⟨-, rfl⟩ | ⟨rl, rl', -, -, rfl⟩ <;> rfl

/-- Counting a request does not change how it is prepared. -/
theorem RateAdmits.prepareFor {g' : GatewayState} (h : g.RateAdmits req g') (path : String) :
    g'.prepareFor env req path = g.prepareFor env req path := by
  rcases h with ⟨-, rfl⟩ | ⟨rl, rl', -, -, rfl⟩ <;> rfl

/-! ## The token gate, the route and the body limit -/

/-- A draw below a known route's total weight resolves it. -/
theorem resolve_isSome_of_totalWeight {reg : Registry} {route : String} {t r : Nat}
    (hw : reg.totalWeight? route = some t) (hr : r < t) : (reg.resolve route r).isSome := by
  unfold Registry.totalWeight? at hw
  cases hf : reg.routes.find? route with
  | none => simp [hf] at hw
  | some eps =>
    simp only [hf, Option.map_some, Option.some.injEq] at hw
    exact (reg.resolve_isSome_iff route r).2 ⟨eps, hf, hw ▸ hr⟩

variable (g req)

/-- The route of the path has positive weight and the draw picks `ep` from it. -/
def Picks (ep : Endpoint) : Prop :=
  ∃ t, g.registry.totalWeight? (g.registry.routeFor req.uri.path) = some t ∧ 0 < t ∧
    g.registry.resolve (g.registry.routeFor req.uri.path) (env.draw t) = some ep

/-- The route of the path is unknown or has total weight zero. -/
def Unroutable : Prop :=
  g.registry.totalWeight? (g.registry.routeFor req.uri.path) = none ∨
    g.registry.totalWeight? (g.registry.routeFor req.uri.path) = some 0

variable {g env req}

/-- The endpoint chosen for a request's route is the one the request picks. -/
theorem chooseEndpoint_eq_some_iff {ep : Endpoint} :
    g.chooseEndpoint env (g.registry.routeFor req.uri.path) = some ep ↔ g.Picks env req ep := by
  unfold chooseEndpoint Picks
  cases g.registry.totalWeight? (g.registry.routeFor req.uri.path) with
  | none => simp
  | some t =>
    by_cases ht : t = 0
    · simp [ht]
    · simp [ht, Nat.pos_of_ne_zero ht]

/-- With draws below the total, a route yields no endpoint exactly when it is unknown or
its total weight is zero. -/
theorem chooseEndpoint_eq_none_iff_of_route (hdraw : env.DrawsBelowTotal) (route : String) :
    g.chooseEndpoint env route = none ↔
      g.registry.totalWeight? route = none ∨ g.registry.totalWeight? route = some 0 := by
  unfold chooseEndpoint
  cases hw : g.registry.totalWeight? route with
  | none => simp
  | some t =>
    by_cases ht : t = 0
    · simp [ht]
    · -- a positive weight is resolved by any draw below it
      have hres := resolve_isSome_of_totalWeight hw (hdraw t (Nat.pos_of_ne_zero ht))
      simp only [ht, if_false, reduceCtorEq, Option.some.injEq, false_or, iff_false]
      exact Option.isSome_iff_ne_none.1 hres

/-- With draws below the total, a request yields no endpoint exactly when its route is
unroutable. -/
theorem chooseEndpoint_eq_none_iff (hdraw : env.DrawsBelowTotal) :
    g.chooseEndpoint env (g.registry.routeFor req.uri.path) = none ↔ g.Unroutable req :=
  chooseEndpoint_eq_none_iff_of_route hdraw _

/-- A body over the limit is the only reason the request for an endpoint is not made. -/
theorem prepare_eq_error_iff {r : Request} {address : String} {maxBody : Nat}
    {e : GatewayError} : prepare r address maxBody = .error e ↔
      maxBody < r.body.length ∧ e = bodyTooLarge := by
  unfold prepare
  by_cases hb : maxBody < r.body.length
  · simp [hb, eq_comm]
  · simp [hb]

/-- The request as it leaves the token gate with an identity: the client's identity headers
replaced by that identity's, and a request id ensured. -/
def withIdentity (req : Request) (identity : Option Identity) (fresh : String) : Request :=
  { req with headers := (ensureRequestId (attachIdentity req.headers identity) fresh).2 }

variable (g env req)

/-- How the token gate, the route and the body limit end for a request: a refusal, or the
request to send to the endpoint that the route draws. -/
inductive Prepared : Except GatewayError Outbound → Prop
  | unauthorized (msg : String) :
      g.authenticator.Refuses req.headers req.uri.path env.now msg →
      Prepared (.error (.unauthorized msg))
  | routeNotFound (identity : Option Identity) :
      g.authenticator.Passes req.headers req.uri.path env.now identity →
      g.Unroutable req → Prepared (.error (.routeNotFound (g.registry.routeFor req.uri.path)))
  | bodyTooLarge (identity : Option Identity) (ep : Endpoint) :
      g.authenticator.Passes req.headers req.uri.path env.now identity →
      g.Picks env req ep → g.maxBodyBytes < req.body.length → Prepared (.error bodyTooLarge)
  | ready (identity : Option Identity) (ep : Endpoint) (out : Outbound) :
      g.authenticator.Passes req.headers req.uri.path env.now identity →
      g.Picks env req ep →
      prepare (withIdentity req identity env.freshId) ep.address g.maxBodyBytes = .ok out →
      Prepared (.ok out)

variable {g env req}

/-- The token gate, then the route, then the request made for the endpoint drawn. -/
theorem prepareFor_eq (path : String) : g.prepareFor env req path =
    (g.authenticator.authenticate req.headers path env.now).bind fun identity =>
      match g.chooseEndpoint env (g.registry.routeFor path) with
      | none => .error (.routeNotFound (g.registry.routeFor path))
      | some ep => prepare (withIdentity req identity env.freshId) ep.address g.maxBodyBytes := by
  unfold prepareFor
  cases g.authenticator.authenticate req.headers path env.now with
  | error e => rfl
  | ok identity => rfl

/-- With draws below the total, preparing a request gives exactly the outcome `Prepared`
describes. -/
theorem prepareFor_eq_iff (hdraw : env.DrawsBelowTotal) {res : Except GatewayError Outbound} :
    g.prepareFor env req req.uri.path = res ↔ g.Prepared env req res := by
  rw [prepareFor_eq]
  constructor
  · rintro rfl
    cases ha : g.authenticator.authenticate req.headers req.uri.path env.now with
    | error e =>
      obtain ⟨msg, rfl, hr⟩ := Authenticator.authenticate_eq_error_iff.1 ha
      exact .unauthorized msg hr
    | ok identity =>
      have hp := Authenticator.authenticate_eq_ok_iff.1 ha
      simp only [Except.bind]
      cases hc : g.chooseEndpoint env (g.registry.routeFor req.uri.path) with
      | none => exact .routeNotFound identity hp ((chooseEndpoint_eq_none_iff hdraw).1 hc)
      | some ep =>
        have hpick := chooseEndpoint_eq_some_iff.1 hc
        dsimp only
        cases hq : prepare (withIdentity req identity env.freshId) ep.address
            g.maxBodyBytes with
        | error e =>
          obtain ⟨hlt, rfl⟩ := prepare_eq_error_iff.1 hq
          exact .bodyTooLarge identity ep hp hpick hlt
        | ok out => exact .ready identity ep out hp hpick hq
  · intro h
    cases h with
    | unauthorized msg hr =>
      rw [Authenticator.authenticate_eq_error_iff.2 ⟨msg, rfl, hr⟩]
      rfl
    | routeNotFound identity hp hu =>
      rw [Authenticator.authenticate_eq_ok_iff.2 hp]
      simp only [Except.bind, (chooseEndpoint_eq_none_iff hdraw).2 hu]
    | bodyTooLarge identity ep hp hpick hlt =>
      rw [Authenticator.authenticate_eq_ok_iff.2 hp]
      simp only [Except.bind, chooseEndpoint_eq_some_iff.2 hpick]
      exact prepare_eq_error_iff.2 ⟨hlt, rfl⟩
    | ready identity ep out hp hpick hq =>
      rw [Authenticator.authenticate_eq_ok_iff.2 hp]
      simp only [Except.bind, chooseEndpoint_eq_some_iff.2 hpick]
      exact hq

/-! ## The whole pipeline -/

variable (g env req)

/-- The gateway's rules for a request, over the state `g` in which it arrives: the first check
that fails answers it, and a request that passes them all is sent once, its answer recorded in
the breaker. Each rule gives the state that follows. -/
inductive Handled : Except GatewayError Response → GatewayState → Prop
  | forbidden (d : Denial) :
      g.access.check (client req) req.uri.path = .error d → Handled (.error (.forbidden d)) g
  | rateLimited :
      g.access.check (client req) req.uri.path = .ok () → g.RateRefuses req →
      Handled (.error .rateLimited) g
  | circuitOpen (g' : GatewayState) :
      g.access.check (client req) req.uri.path = .ok () → g.RateAdmits req g' →
      g.breaker.allows = false → Handled (.error .circuitOpen) g'
  | refused (g' : GatewayState) (e : GatewayError) :
      g.Admitted req g' → g.Prepared env req (.error e) → Handled (.error e) g'
  | undelivered (g' : GatewayState) (out : Outbound) :
      g.Admitted req g' → g.Prepared env req (.ok out) → env.send out = none →
      Handled (.error (.badGateway "error sending request"))
        { g' with breaker := (g'.breaker.recordFailure env.timerMs).settle env.timerMs }
  | relayed (g' : GatewayState) (out : Outbound) (resp : Response) :
      g.Admitted req g' → g.Prepared env req (.ok out) → env.send out = some resp →
      Handled (.ok (relay resp))
        { g' with
          breaker := (g'.breaker.recordResponse env.timerMs resp.status).settle env.timerMs }

variable {g env req}

/-- Sending the prepared request and recording the answer is one of the rules. -/
theorem handled_of_exchange {g' : GatewayState} (hadm : g.Admitted req g') {out : Outbound}
    (hprep : g.Prepared env req (.ok out)) :
    g.Handled env req (g'.exchange env out).1 (g'.exchange env out).2 := by
  cases hs : env.send out with
  | none =>
    simp only [exchange, recordReply, hs]
    exact .undelivered g' out hadm hprep hs
  | some resp =>
    simp only [exchange, recordReply, hs]
    exact .relayed g' out resp hadm hprep hs

/-- `dispatch` follows the gateway's rules exactly, over the state after any due reset: the
answer and the state that follows are those of the first check that fails, or of the one
exchange with the backend. -/
theorem dispatch_eq_iff_handled (hdraw : env.DrawsBelowTotal) {r : Except GatewayError Response}
    {g' : GatewayState} : g.dispatch env req = (r, g') ↔ (g.settle env).Handled env req r g' := by
  simp only [dispatch, outbound]
  rw [show clientIp req.headers req.peer = client req from rfl]
  generalize g.settle env = g₀
  constructor
  · intro h
    cases hc : g₀.access.check (client req) req.uri.path with
    | error d =>
      simp only [hc, Prod.mk.injEq] at h
      obtain ⟨rfl, rfl⟩ := h
      exact .forbidden d hc
    | ok u =>
      cases hp : g₀.passRateLimit (client req) with
      | mk admitted g₁ =>
        cases admitted with
        | false =>
          obtain ⟨hr, rfl⟩ := passRateLimit_eq_false_iff.1 hp
          simp [hc, hp] at h
          obtain ⟨rfl, rfl⟩ := h
          exact .rateLimited hc hr
        | true =>
          have ha := passRateLimit_eq_true_iff.1 hp
          cases hb : g₀.breaker.allows with
          | false =>
            simp [hc, hp, ha.breaker, hb] at h
            obtain ⟨rfl, rfl⟩ := h
            exact .circuitOpen _ hc ha hb
          | true =>
            have hadm : g₀.Admitted req g₁ := ⟨hc, ha, hb⟩
            cases hq : g₀.prepareFor env req req.uri.path with
            | error e =>
              simp [hc, hp, ha.breaker, hb, ha.prepareFor, hq] at h
              obtain ⟨rfl, rfl⟩ := h
              exact .refused _ e hadm ((prepareFor_eq_iff hdraw).1 hq)
            | ok out =>
              simp [hc, hp, ha.breaker, hb, ha.prepareFor, hq] at h
              have hx := handled_of_exchange hadm ((prepareFor_eq_iff hdraw).1 hq)
              rw [h] at hx
              exact hx
  · intro h
    cases h with
    | forbidden d hc => simp [hc]
    | rateLimited hc hr => simp [hc, passRateLimit_eq_false_iff.2 ⟨hr, rfl⟩]
    | circuitOpen g₁ hc ha hb => simp [hc, passRateLimit_eq_true_iff.2 ha, ha.breaker, hb]
    | refused g₁ e hadm hprep =>
      obtain ⟨hc, ha, hb⟩ := hadm
      simp [hc, passRateLimit_eq_true_iff.2 ha, ha.breaker, hb, ha.prepareFor,
        (prepareFor_eq_iff hdraw).2 hprep]
    | undelivered g₁ out hadm hprep hs =>
      obtain ⟨hc, ha, hb⟩ := hadm
      simp [hc, passRateLimit_eq_true_iff.2 ha, ha.breaker, hb, ha.prepareFor,
        (prepareFor_eq_iff hdraw).2 hprep, exchange, recordReply, hs]
    | relayed g₁ out resp hadm hprep hs =>
      obtain ⟨hc, ha, hb⟩ := hadm
      simp [hc, passRateLimit_eq_true_iff.2 ha, ha.breaker, hb, ha.prepareFor,
        (prepareFor_eq_iff hdraw).2 hprep, exchange, recordReply, hs]

/-- The rules at a gateway with no routes, no access lists and no rate limit, in surroundings
whose draw is zero. -/
theorem dispatch_eq_iff_handled_no_routes :
    (Surroundings.unreachable "id" 0).DrawsBelowTotal ∧
      ((⟨⟨NameMap.empty, [], "default"⟩,
          ⟨NameSet.empty, NameSet.empty, NameMap.empty, true, false, true⟩, none,
          Breaker.new 5 10, ⟨⟨"secret", 72⟩, NameSet.empty⟩, 1024, Clock.ofSeconds 0⟩ :
          GatewayState).dispatch (Surroundings.unreachable "id" 0)
          ⟨Method.get, ⟨none, [], [47]⟩, HeaderMap.empty, [], none⟩ =
        (.error (.unauthorized "Missing bearer token"), ⟨⟨NameMap.empty, [], "default"⟩,
          ⟨NameSet.empty, NameSet.empty, NameMap.empty, true, false, true⟩, none,
          Breaker.new 5 10, ⟨⟨"secret", 72⟩, NameSet.empty⟩, 1024, Clock.ofSeconds 0⟩) ↔
      ((⟨⟨NameMap.empty, [], "default"⟩,
          ⟨NameSet.empty, NameSet.empty, NameMap.empty, true, false, true⟩, none,
          Breaker.new 5 10, ⟨⟨"secret", 72⟩, NameSet.empty⟩, 1024, Clock.ofSeconds 0⟩ :
          GatewayState).settle (Surroundings.unreachable "id" 0)).Handled
        (Surroundings.unreachable "id" 0) ⟨Method.get, ⟨none, [], [47]⟩, HeaderMap.empty, [], none⟩
        (.error (.unauthorized "Missing bearer token")) ⟨⟨NameMap.empty, [], "default"⟩,
          ⟨NameSet.empty, NameSet.empty, NameMap.empty, true, false, true⟩, none,
          Breaker.new 5 10, ⟨⟨"secret", 72⟩, NameSet.empty⟩, 1024, Clock.ofSeconds 0⟩) :=
  ⟨fun _ ht => ht, dispatch_eq_iff_handled fun _ ht => ht⟩

end GatewayState

end ApiGateway.Gateway
