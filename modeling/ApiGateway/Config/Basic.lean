import ApiGateway.Text.Blank
import ApiGateway.Data.NameMap
import ApiGateway.Routing.Endpoint
import ApiGateway.Config.Error

/-!
# The settings record

The gateway runs from one settings record with seven parts: the listening ports, token
settings, routing, access policy, rate limit, breaker and outbound client. A record is
accepted by `validate` when four checks pass, in this order, the first failure deciding:
the signing secret is not blank, the token lifetime is between one hour and one leap
year, an enabled rate limit admits at least one request a second, and the default route
has an endpoint list (an empty list counts as present).

Main statements:
* `validate_eq_ok_iff`: a record is accepted exactly when all four checks pass.
-/

namespace ApiGateway.Config

open ApiGateway.Text

/-- How bearer tokens are signed and which paths skip them. -/
structure TokenSettings where
  /-- The shared signing secret. -/
  secret : String
  /-- The lifetime of issued tokens in hours. -/
  lifetimeHours : Int
  /-- Paths, matched exactly, that need no token. -/
  exemptPaths : List String
  deriving Repr

/-- Where requests go: endpoint lists by route name, the prefix table and the route of
paths that match no prefix. -/
structure RoutingSettings where
  /-- The endpoint list of each route, by route name. -/
  routes : NameMap (List Endpoint)
  /-- Path prefixes with their route names, in the order given. -/
  prefixes : List (String × String)
  /-- The route of a path that no prefix matches. -/
  defaultRoute : String
  deriving Repr

/-- The address lists of the access policy and the switches that enable them. -/
structure AccessSettings where
  /-- Addresses refused everywhere. -/
  blacklist : List String
  /-- Addresses admitted when the whitelist is in force. -/
  whitelist : List String
  /-- Path prefixes with the addresses allowed to reach them. -/
  restricted : NameMap (List String)
  /-- Whether the blacklist is checked. -/
  enableBlacklist : Bool
  /-- Whether the whitelist is checked. -/
  enableWhitelist : Bool
  /-- Whether the restricted prefixes are checked. -/
  enableRestricted : Bool
  deriving Repr

/-- The per-client request limit. -/
structure RateSettings where
  /-- Whether requests are counted. -/
  enabled : Bool
  /-- Requests admitted per client and second. -/
  perSecond : Nat
  deriving Repr

/-- When the breaker opens and how long it stays open. -/
structure BreakerSettings where
  /-- The breaker opens once the failure count exceeds this, an unsigned 32-bit number. -/
  failureThreshold : Nat
  /-- Seconds the breaker stays open. -/
  coolDownSecs : Nat
  deriving Repr

/-- The outbound client's limits. -/
structure ClientSettings where
  /-- Seconds allowed for connecting to a backend. -/
  connectTimeoutSecs : Nat
  /-- Seconds an idle connection is kept. -/
  poolIdleTimeoutSecs : Nat
  /-- The largest request body forwarded, in bytes. -/
  maxBodyBytes : Nat
  deriving Repr

/-- The whole settings record. -/
structure Settings where
  /-- The port of the gateway. -/
  port : Nat
  /-- The port of the health endpoint. -/
  adminPort : Nat
  /-- Token settings. -/
  token : TokenSettings
  /-- Routing settings. -/
  routing : RoutingSettings
  /-- Access settings. -/
  access : AccessSettings
  /-- Rate limit settings. -/
  rate : RateSettings
  /-- Breaker settings. -/
  breaker : BreakerSettings
  /-- Outbound client settings. -/
  client : ClientSettings
  deriving Repr

namespace Settings

/-- Whether the signing secret is blank. -/
def secretIsBlank (s : Settings) : Bool := (trim s.token.secret).isEmpty

/-- Whether the token lifetime lies between one hour and one leap year. -/
def lifetimeInRange (s : Settings) : Bool :=
  1 ≤ s.token.lifetimeHours && s.token.lifetimeHours ≤ maxLifetimeHours

/-- Whether the rate limit is on with a rate of zero. -/
def rateIsZero (s : Settings) : Bool := s.rate.enabled && s.rate.perSecond == 0

/-- Whether the default route has an endpoint list. -/
def hasDefaultRoute (s : Settings) : Bool := s.routing.routes.contains s.routing.defaultRoute

/-- Refuses a record the gateway cannot run with; the first failed check is reported. -/
def validate (s : Settings) : Except ConfigError Unit :=
  if s.secretIsBlank then .error .secretBlank
  else if !s.lifetimeInRange then .error (.lifetimeOutOfRange s.token.lifetimeHours)
  else if s.rateIsZero then .error .zeroRate
  else if !s.hasDefaultRoute then .error (.noDefaultRoute s.routing.defaultRoute)
  else .ok ()

/-- A record is accepted exactly when all four checks pass. -/
theorem validate_eq_ok_iff (s : Settings) :
    s.validate = .ok () ↔
      s.secretIsBlank = false ∧ s.lifetimeInRange = true ∧ s.rateIsZero = false ∧
        s.hasDefaultRoute = true := by
  unfold validate
  cases h1 : s.secretIsBlank <;> cases h2 : s.lifetimeInRange <;>
    cases h3 : s.rateIsZero <;> cases h4 : s.hasDefaultRoute <;> simp

end Settings

end ApiGateway.Config
