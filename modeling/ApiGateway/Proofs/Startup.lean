import Mathlib
import ApiGateway.Config.Environment
import ApiGateway.Proofs.Pipeline
import ApiGateway.Proofs.PrefixRouting
import ApiGateway.Proofs.RateLimit

/-!
# Starting the gateway from accepted settings

Validation of the settings and the start of the gateway's parts check overlapping conditions
each on their own: the blank secret (both trim it), the token lifetime (both take one hour to
one leap year, bounds included), the rate and the default route. They agree: every settings
record that validation accepts, and so every record read from the environment, starts a
gateway. Its token authority accepts the settings, an enabled rate limit admits the first
request of every client in every second, and a path that no prefix begins goes to the
default route, which is known and yields an endpoint unless its total weight is zero.
-/

namespace ApiGateway

open Config Token Gateway

/-- A chain of two steps that succeeds has a first step that succeeds. -/
theorem exists_of_bind_eq_ok {ε α β : Type} {x : Except ε α} {f : α → Except ε β} {b : β}
    (h : x >>= f = .ok b) : ∃ a, x = .ok a ∧ f a = .ok b := by
  cases x with
  | error e => cases h
  | ok a => exact ⟨a, rfl, h⟩

/-- Every record read from the environment has passed validation. -/
theorem fromEnv_validate {env : Environment} {s : Settings} (h : Settings.fromEnv env = .ok s) :
    s.validate = .ok () := by
  unfold Settings.fromEnv at h
  dsimp only at h
  split at h
  · -- the secret is set; the three readers succeed, then validation
    obtain ⟨secret, -, h⟩ := exists_of_bind_eq_ok h
    obtain ⟨routes, -, h⟩ := exists_of_bind_eq_ok h
    obtain ⟨prefixes, -, h⟩ := exists_of_bind_eq_ok h
    obtain ⟨restricted, -, h⟩ := exists_of_bind_eq_ok h
    obtain ⟨u, hv, h⟩ := exists_of_bind_eq_ok h
    cases h
    exact hv
  · cases h

section Validated

variable {s : Settings}

/-- The token authority accepts what validation accepts: both test the trimmed secret and the
same lifetime bounds. -/
theorem authority_of_validate (h : s.validate = .ok ()) :
    TokenAuthority.new s.token = .ok ⟨s.token.secret, s.token.lifetimeHours⟩ := by
  obtain ⟨hblank, hlife, -, -⟩ := (Settings.validate_eq_ok_iff s).1 h
  have hb : (Text.trim s.token.secret).isEmpty = false := hblank
  have hl : (1 ≤ s.token.lifetimeHours && s.token.lifetimeHours ≤ maxLifetimeHours) = true := hlife
  simp [TokenAuthority.new, hb, hl]

/-- An enabled rate limit of accepted settings is positive. -/
theorem perSecond_pos_of_validate (h : s.validate = .ok ()) (hon : s.rate.enabled = true) :
    0 < s.rate.perSecond := by
  obtain ⟨-, -, hzero, -⟩ := (Settings.validate_eq_ok_iff s).1 h
  simp only [Settings.rateIsZero, hon, Bool.true_and, beq_eq_false_iff_ne] at hzero
  omega

/-- The default route of accepted settings has an endpoint list. -/
theorem defaultRoute_of_validate (h : s.validate = .ok ()) :
    ∃ eps, s.routing.routes.find? s.routing.defaultRoute = some eps := by
  obtain ⟨-, -, -, hdef⟩ := (Settings.validate_eq_ok_iff s).1 h
  exact Option.isSome_iff_exists.1 hdef

end Validated

/-- A gateway starts whenever its token authority does. -/
theorem Gateway.GatewayState.new_of_authority {s : Settings} (clock : Clock) {a : TokenAuthority}
    (ha : TokenAuthority.new s.token = .ok a) :
    GatewayState.new s clock = .ok
      { registry := Registry.ofSettings s.routing
        access := AccessPolicy.ofSettings s.access
        limiter := if s.rate.enabled then some (RateLimiter.new s.rate.perSecond) else none
        breaker := Breaker.new s.breaker.failureThreshold.toUInt32 s.breaker.coolDownSecs
        authenticator := ⟨a, NameSet.ofList s.token.exemptPaths⟩
        maxBodyBytes := s.client.maxBodyBytes
        clock } := by
  simp [GatewayState.new, ha]

/-- Under a positive limit, the first request of a client in a second is admitted, over any
run of requests and clock moves from a limiter with no slots. -/
theorem Meter.first_request_admitted {L : Nat} (hpos : 0 < L) (c : Clock) (ops : List Meter.Op)
    (client : String)
    (hfirst : (client, (Meter.after ⟨RateLimiter.new L, c⟩ ops).clock.now) ∉ Meter.calls c ops) :
    ((Meter.after ⟨RateLimiter.new L, c⟩ ops).perform (.allow client)).1 = some true := by
  obtain ⟨hlim, hc⟩ :=
    Meter.counts_after ⟨RateLimiter.new L, c⟩ [] (RateLimiter.counts_nil L) ops
  rw [List.nil_append] at hc
  have hc' : RateLimiter.Counts (Meter.after ⟨RateLimiter.new L, c⟩ ops).limiter.limit
      (Meter.calls c ops) (Meter.after ⟨RateLimiter.new L, c⟩ ops).limiter.slots := by
    rw [hlim]
    exact hc
  have hans := (RateLimiter.allow_counts hc' client
    (Meter.after ⟨RateLimiter.new L, c⟩ ops).clock.now).1
  rw [List.count_eq_zero.2 hfirst, hlim] at hans
  simp only [Meter.perform, hans, Option.some.injEq, decide_eq_true_eq]
  exact hpos

/-- A path that no prefix begins goes to the default route. -/
theorem Registry.routeFor_ofSettings_default (r : RoutingSettings) (path : String)
    (h : ∀ p ∈ r.prefixes, ¬ Registry.BytePrefix p.1 path) :
    (Registry.ofSettings r).routeFor path = r.defaultRoute := by
  apply Registry.routeFor_of_noMatch
  intro p hp
  have hmem : p ∈ r.prefixes := List.mem_mergeSort.1 hp
  exact Bool.eq_false_iff.2 fun hs => h p hmem ((Registry.startsWith_iff_bytePrefix _ _).1 hs)

/-- With draws below the total, a known route yields an endpoint exactly when its total
weight is positive. -/
theorem Gateway.GatewayState.chooseEndpoint_isSome_iff {g : GatewayState} {env : Surroundings}
    (hdraw : env.DrawsBelowTotal) {route : String} {eps : List Endpoint}
    (hf : g.registry.routes.find? route = some eps) :
    (g.chooseEndpoint env route).isSome ↔ 0 < Endpoint.totalWeight eps := by
  have hw : g.registry.totalWeight? route = some (Endpoint.totalWeight eps) := by
    simp [Registry.totalWeight?, hf]
  rw [Option.isSome_iff_ne_none, ne_eq, GatewayState.chooseEndpoint_eq_none_iff_of_route hdraw,
    hw]
  simp only [reduceCtorEq, Option.some.injEq, false_or]
  omega

/-- Every settings record that validation accepts starts a gateway, and so does every record
read from the environment (`fromEnv_validate`). The token authority accepts the record. With
rate limiting on, the limit is positive and the first request of every client in every
second is admitted, whatever requests and clock moves came before. The default route has an
endpoint list, every path that no prefix begins goes to it, and with draws below the total
it yields an endpoint exactly when its total weight is positive. -/
theorem start_of_validate (s : Settings) (clock : Clock) (h : s.validate = .ok ()) :
    TokenAuthority.new s.token = .ok ⟨s.token.secret, s.token.lifetimeHours⟩ ∧
      ∃ g, GatewayState.new s clock = .ok g ∧
        (s.rate.enabled = true → ∃ rl, g.limiter = some rl ∧ 0 < rl.limit ∧
          ∀ (ops : List Meter.Op) (client : String),
            (client, (Meter.after ⟨rl, g.clock⟩ ops).clock.now) ∉ Meter.calls g.clock ops →
              ((Meter.after ⟨rl, g.clock⟩ ops).perform (.allow client)).1 = some true) ∧
        ∃ eps, g.registry.routes.find? s.routing.defaultRoute = some eps ∧
          ∀ (env : Surroundings) (path : String), env.DrawsBelowTotal →
            (∀ p ∈ s.routing.prefixes, ¬ Registry.BytePrefix p.1 path) →
              g.registry.routeFor path = s.routing.defaultRoute ∧
                ((g.chooseEndpoint env (g.registry.routeFor path)).isSome ↔
                  0 < Endpoint.totalWeight eps) := by
  have ha := authority_of_validate h
  obtain ⟨eps, hdef⟩ := defaultRoute_of_validate h
  refine ⟨ha, _, GatewayState.new_of_authority clock ha, fun hon => ?_, eps, hdef,
    fun env path hdraw hnone => ?_⟩
  · have hpos := perSecond_pos_of_validate h hon
    refine ⟨RateLimiter.new s.rate.perSecond, by simp [hon], hpos, fun ops client hfirst => ?_⟩
    exact Meter.first_request_admitted hpos clock ops client hfirst
  · have hroute := Registry.routeFor_ofSettings_default s.routing path hnone
    refine ⟨hroute, ?_⟩
    rw [hroute]
    exact GatewayState.chooseEndpoint_isSome_iff hdraw hdef

/-- A small record that validation accepts: one route with one endpoint under one prefix, a
secret, and a limit of one request a second. -/
def singleRouteSettings : Settings :=
  ⟨8080, 8081, ⟨"secret", 72, []⟩,
    ⟨NameMap.ofList [("default", [⟨"127.0.0.1:8000", 1⟩])], [("/api", "default")], "default"⟩,
    ⟨[], [], NameMap.empty, true, false, true⟩, ⟨true, 1⟩, ⟨5, 10⟩, ⟨5, 90, 2097152⟩⟩

/-- The one-route record validates, and the gateway starts from it with a limiter that admits
each client's first request in a second and a default route for every path outside `/api`. -/
theorem start_of_validate_single_route :
    singleRouteSettings.validate = .ok () ∧
      TokenAuthority.new singleRouteSettings.token =
        .ok ⟨singleRouteSettings.token.secret, singleRouteSettings.token.lifetimeHours⟩ ∧
      ∃ g, GatewayState.new singleRouteSettings (Clock.ofSeconds 0) = .ok g ∧
        (singleRouteSettings.rate.enabled = true → ∃ rl, g.limiter = some rl ∧ 0 < rl.limit ∧
          ∀ (ops : List Meter.Op) (client : String),
            (client, (Meter.after ⟨rl, g.clock⟩ ops).clock.now) ∉ Meter.calls g.clock ops →
              ((Meter.after ⟨rl, g.clock⟩ ops).perform (.allow client)).1 = some true) ∧
        ∃ eps, g.registry.routes.find? singleRouteSettings.routing.defaultRoute = some eps ∧
          ∀ (env : Surroundings) (path : String), env.DrawsBelowTotal →
            (∀ p ∈ singleRouteSettings.routing.prefixes, ¬ Registry.BytePrefix p.1 path) →
              g.registry.routeFor path = singleRouteSettings.routing.defaultRoute ∧
                ((g.chooseEndpoint env (g.registry.routeFor path)).isSome ↔
                  0 < Endpoint.totalWeight eps) :=
  ⟨rfl, start_of_validate singleRouteSettings (Clock.ofSeconds 0) rfl⟩

end ApiGateway
