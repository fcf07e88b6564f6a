import Mathlib
import ApiGateway.Proofs.RouteVariables

/-!
# Settings read from the environment

Reading the settings record from an environment makes eight checks, in this order, and the
first that fails decides the error (`ReadFailure`): the signing secret is set; every
endpoint-list variable's list reads; the prefix table, or its default, reads; the
restricted-route table, or the empty text, reads; the secret is not blank; the token lifetime
lies between one hour and one leap year; an enabled rate limit is not zero; and the default
route is a route of the table. When all pass (`Readable`) the record holds, field by field, the
setting of its variable (`ReadFrom`): the variable's text read by the setting's reader, or the
default when the variable is unset or its text does not read. A flag is on exactly when its
trimmed, lowercased text is `true`, `1` or `yes`, and takes its default only when unset. The
route table is the development table when no variable defines a route, and the routes the
variables define otherwise.

Main statements:
* `fromEnv_first_failed_check`: the record is read exactly when the eight checks pass, and then
  holds the settings of its variables; otherwise the error is that of the first failed check;
  and a number or a flag is its variable's text read, or its default.

Implementation notes: `settingsOf` is the record the reading builds once the secret and the
three tables are read; `fromEnv_of_tables` says reading ends by validating it.
-/

namespace ApiGateway.Config

open ApiGateway.Text

/-! ## Settings with a default -/

namespace Environment

variable (env : Environment)

/-- A number is the variable's numeral when it reads, and the default when the variable is
unset or its text does not read. -/
theorem numberOr_eq_iff (name : String) (limit d n : Nat) :
    env.numberOr name limit d = n ↔
      (∃ s, env.get? name = some s ∧ readUnsigned limit s = .ok n) ∨
        ((∀ s, env.get? name = some s → ∀ k, readUnsigned limit s ≠ .ok k) ∧ n = d) := by
  unfold numberOr
  cases env.get? name with
  | none => simp [eq_comm]
  | some s =>
    dsimp only
    cases hr : readUnsigned limit s with
    | ok k => simp [hr]
    | error e => simp [hr, eq_comm]

/-- A signed number is the variable's numeral when it reads, and the default when the variable
is unset or its text does not read. -/
theorem signedOr_eq_iff (name : String) (d n : Int) :
    env.signedOr name d = n ↔
      (∃ s, env.get? name = some s ∧ readI64 s = .ok n) ∨
        ((∀ s, env.get? name = some s → ∀ k, readI64 s ≠ .ok k) ∧ n = d) := by
  unfold signedOr
  cases env.get? name with
  | none => simp [eq_comm]
  | some s =>
    dsimp only
    cases hr : readI64 s with
    | ok k => simp [hr]
    | error e => simp [hr, eq_comm]

/-- A flag is on exactly when its variable's trimmed, lowercased text is `true`, `1` or `yes`,
or when the variable is unset and the default is on. -/
theorem flagOr_eq_true_iff (name : String) (d : Bool) :
    env.flagOr name d = true ↔
      (∃ s, env.get? name = some s ∧ lowerText (trim s) ∈ ["true", "1", "yes"]) ∨
        (env.get? name = none ∧ d = true) := by
  unfold flagOr flagText
  cases env.get? name with
  | none => simp
  | some s => simp

/-! ## The checks -/

/-- The signing secret is set. -/
def SecretSet : Prop := ∃ secret, env.get? "JWT_SECRET" = some secret

/-- The list of every variable that names a route reads. -/
def RoutesAccepted : Prop := ∀ p ∈ env.vars, Accepted p

/-- The prefix table, or its default when unset, reads. -/
def PrefixesAccepted : Prop :=
  ∃ t, readPrefixTable (env.getD "GATEWAY_ROUTE_PREFIXES" defaultPrefixTable) = .ok t

/-- The restricted-route table, or the empty text when unset, reads. -/
def RestrictionsAccepted : Prop :=
  ∃ m, readRestrictions (env.getD "ACCESS_RESTRICTED_ROUTES" "") = .ok m

/-- The signing secret is set and blank. -/
def SecretBlank : Prop := ∃ secret, env.get? "JWT_SECRET" = some secret ∧ trim secret = ""

/-- The token lifetime setting lies between one hour and one leap year. -/
def LifetimeInRange : Prop :=
  1 ≤ env.signedOr "JWT_TOKEN_TTL_HOURS" 72 ∧ env.signedOr "JWT_TOKEN_TTL_HOURS" 72 ≤ maxLifetimeHours

/-- Rate limiting is on with a rate of zero. -/
def RateIsZero : Prop :=
  env.flagOr "RATE_LIMIT_ENABLED" true = true ∧
    env.numberOr "RATE_LIMIT_REQUESTS_PER_SECOND" maxU32 1 = 0

/-- Some variable defines a route. -/
def DefinesSomeRoute : Prop := ∃ p ∈ env.vars, ∃ r eps, Defines p r eps

/-- The default route setting is a route of the table: one that a variable defines, or, when
no variable defines a route, one of the development routes. -/
def DefaultRouteKnown : Prop :=
  (env.DefinesSomeRoute →
      ∃ p ∈ env.vars, ∃ eps, Defines p (env.getD "GATEWAY_DEFAULT_ROUTE" "default") eps) ∧
    (¬env.DefinesSomeRoute →
      env.getD "GATEWAY_DEFAULT_ROUTE" "default" ∈ ["default", "security", "system"])

/-- The checks reading the settings makes, all passed. -/
structure Readable : Prop where
  secretSet : env.SecretSet
  routesAccepted : env.RoutesAccepted
  prefixesAccepted : env.PrefixesAccepted
  restrictionsAccepted : env.RestrictionsAccepted
  secretNotBlank : ¬env.SecretBlank
  lifetimeInRange : env.LifetimeInRange
  rateNotZero : ¬env.RateIsZero
  defaultRouteKnown : env.DefaultRouteKnown

/-- Why reading the settings fails: the first check that fails, with every earlier one
passed, and the error it reports. -/
inductive ReadFailure : ConfigError → Prop
  | secretUnset : env.get? "JWT_SECRET" = none → ReadFailure .secretUnset
  | routeRefused {err : ConfigError} : env.SecretSet →
      (∃ pre p post, env.vars = pre ++ p :: post ∧ (∀ q ∈ pre, Accepted q) ∧ Refused p err) →
      ReadFailure err
  | prefixesRefused {e : EntryError} : env.SecretSet → env.RoutesAccepted →
      readPrefixTable (env.getD "GATEWAY_ROUTE_PREFIXES" defaultPrefixTable) = .error e →
      ReadFailure (.variable "GATEWAY_ROUTE_PREFIXES" e)
  | restrictionsRefused {e : EntryError} : env.SecretSet → env.RoutesAccepted →
      env.PrefixesAccepted → readRestrictions (env.getD "ACCESS_RESTRICTED_ROUTES" "") = .error e →
      ReadFailure (.variable "ACCESS_RESTRICTED_ROUTES" e)
  | secretBlank : env.SecretSet → env.RoutesAccepted → env.PrefixesAccepted →
      env.RestrictionsAccepted → env.SecretBlank → ReadFailure .secretBlank
  | lifetimeOutOfRange : env.SecretSet → env.RoutesAccepted → env.PrefixesAccepted →
      env.RestrictionsAccepted → ¬env.SecretBlank → ¬env.LifetimeInRange →
      ReadFailure (.lifetimeOutOfRange (env.signedOr "JWT_TOKEN_TTL_HOURS" 72))
  | zeroRate : env.SecretSet → env.RoutesAccepted → env.PrefixesAccepted →
      env.RestrictionsAccepted → ¬env.SecretBlank → env.LifetimeInRange → env.RateIsZero →
      ReadFailure .zeroRate
  | noDefaultRoute : env.SecretSet → env.RoutesAccepted → env.PrefixesAccepted →
      env.RestrictionsAccepted → ¬env.SecretBlank → env.LifetimeInRange → ¬env.RateIsZero →
      ¬env.DefaultRouteKnown →
      ReadFailure (.noDefaultRoute (env.getD "GATEWAY_DEFAULT_ROUTE" "default"))

/-- Every field of a settings record is the setting of its variable. -/
structure ReadFrom (s : Settings) : Prop where
  port : s.port = env.numberOr "PORT" maxU16 8080
  adminPort : s.adminPort = env.numberOr "ADMIN_PORT" maxU16 8081
  secret : env.get? "JWT_SECRET" = some s.token.secret
  lifetime : s.token.lifetimeHours = env.signedOr "JWT_TOKEN_TTL_HOURS" 72
  exemptPaths : s.token.exemptPaths = readList (env.getD "AUTH_EXEMPT_PATHS" defaultExemptPaths)
  developmentRoutes : ¬env.DefinesSomeRoute → s.routing.routes = developmentRoutes
  definedRoutes : env.DefinesSomeRoute → ∀ r eps, s.routing.routes.find? r = some eps ↔
    ∃ pre p post, env.vars = pre ++ p :: post ∧ Defines p r eps ∧
      ∀ q ∈ post, ∀ name v, NamesRoute q name v → lowerText name ≠ r
  prefixes : readPrefixTable (env.getD "GATEWAY_ROUTE_PREFIXES" defaultPrefixTable) =
    .ok s.routing.prefixes
  defaultRoute : s.routing.defaultRoute = env.getD "GATEWAY_DEFAULT_ROUTE" "default"
  restricted : readRestrictions (env.getD "ACCESS_RESTRICTED_ROUTES" "") = .ok s.access.restricted
  blacklist : s.access.blacklist = readList (env.getD "ACCESS_BLACKLIST" "")
  whitelist : s.access.whitelist = readList (env.getD "ACCESS_WHITELIST" "")
  enableBlacklist : s.access.enableBlacklist = env.flagOr "ACCESS_ENABLE_BLACKLIST" true
  enableWhitelist : s.access.enableWhitelist = env.flagOr "ACCESS_ENABLE_WHITELIST" false
  enableRestricted : s.access.enableRestricted = env.flagOr "ACCESS_ENABLE_RESTRICTED" true
  rateEnabled : s.rate.enabled = env.flagOr "RATE_LIMIT_ENABLED" true
  perSecond : s.rate.perSecond = env.numberOr "RATE_LIMIT_REQUESTS_PER_SECOND" maxU32 1
  failureThreshold :
    s.breaker.failureThreshold = env.numberOr "CIRCUIT_BREAKER_FAILURE_THRESHOLD" maxU32 5
  coolDown : s.breaker.coolDownSecs = env.numberOr "CIRCUIT_BREAKER_COOL_DOWN_SECS" maxU64 10
  connectTimeout :
    s.client.connectTimeoutSecs = env.numberOr "UPSTREAM_CONNECT_TIMEOUT_SECS" maxU64 5
  poolIdleTimeout :
    s.client.poolIdleTimeoutSecs = env.numberOr "UPSTREAM_POOL_IDLE_TIMEOUT_SECS" maxU64 90
  maxBodyBytes : s.client.maxBodyBytes = env.numberOr "MAX_REQUEST_BODY_SIZE" maxU64 (2 * 1024 * 1024)

/-! ## The stages of reading -/

/-- The record reading builds once the secret and the three tables are read. -/
def settingsOf (secret : String) (collected : NameMap (List Endpoint))
    (prefixes : List (String × String)) (restricted : NameMap (List String)) : Settings :=
  { port := env.numberOr "PORT" maxU16 8080
    adminPort := env.numberOr "ADMIN_PORT" maxU16 8081
    token :=
      { secret
        lifetimeHours := env.signedOr "JWT_TOKEN_TTL_HOURS" 72
        exemptPaths := readList (env.getD "AUTH_EXEMPT_PATHS" defaultExemptPaths) }
    routing :=
      { routes := if collected.isEmpty then developmentRoutes else collected
        prefixes
        defaultRoute := env.getD "GATEWAY_DEFAULT_ROUTE" "default" }
    access :=
      { blacklist := readList (env.getD "ACCESS_BLACKLIST" "")
        whitelist := readList (env.getD "ACCESS_WHITELIST" "")
        restricted
        enableBlacklist := env.flagOr "ACCESS_ENABLE_BLACKLIST" true
        enableWhitelist := env.flagOr "ACCESS_ENABLE_WHITELIST" false
        enableRestricted := env.flagOr "ACCESS_ENABLE_RESTRICTED" true }
    rate :=
      { enabled := env.flagOr "RATE_LIMIT_ENABLED" true
        perSecond := env.numberOr "RATE_LIMIT_REQUESTS_PER_SECOND" maxU32 1 }
    breaker :=
      { failureThreshold := env.numberOr "CIRCUIT_BREAKER_FAILURE_THRESHOLD" maxU32 5
        coolDownSecs := env.numberOr "CIRCUIT_BREAKER_COOL_DOWN_SECS" maxU64 10 }
    client :=
      { connectTimeoutSecs := env.numberOr "UPSTREAM_CONNECT_TIMEOUT_SECS" maxU64 5
        poolIdleTimeoutSecs := env.numberOr "UPSTREAM_POOL_IDLE_TIMEOUT_SECS" maxU64 90
        maxBodyBytes := env.numberOr "MAX_REQUEST_BODY_SIZE" maxU64 (2 * 1024 * 1024) } }

variable {env} {secret : String} {collected : NameMap (List Endpoint)}
  {prefixes : List (String × String)} {restricted : NameMap (List String)}

/-- Without a signing secret, reading stops at once. -/
theorem fromEnv_of_secretUnset (h : env.get? "JWT_SECRET" = none) :
    Settings.fromEnv env = .error .secretUnset := by
  unfold Settings.fromEnv
  rw [h]
  rfl

/-- With a secret, a refused endpoint variable ends the reading with its error. -/
theorem fromEnv_of_routes_error {err : ConfigError} (hs : env.get? "JWT_SECRET" = some secret)
    (hr : collectRoutes env.vars NameMap.empty = .error err) :
    Settings.fromEnv env = .error err := by
  unfold Settings.fromEnv
  rw [hs]
  dsimp only [bind, Except.bind, pure, Except.pure]
  rw [hr]

/-- With a secret and the routes read, a refused prefix table ends the reading, naming its
variable. -/
theorem fromEnv_of_prefixes_error {e : EntryError} (hs : env.get? "JWT_SECRET" = some secret)
    (hr : collectRoutes env.vars NameMap.empty = .ok collected)
    (ht : readPrefixTable (env.getD "GATEWAY_ROUTE_PREFIXES" defaultPrefixTable) = .error e) :
    Settings.fromEnv env = .error (.variable "GATEWAY_ROUTE_PREFIXES" e) := by
  unfold Settings.fromEnv
  rw [hs]
  dsimp only [bind, Except.bind, pure, Except.pure]
  rw [hr]
  dsimp only
  rw [readVariable, ht]
  rfl

/-- With a secret, the routes and the prefix table read, a refused restricted-route table ends
the reading, naming its variable. -/
theorem fromEnv_of_restrictions_error {e : EntryError}
    (hs : env.get? "JWT_SECRET" = some secret)
    (hr : collectRoutes env.vars NameMap.empty = .ok collected)
    (ht : readPrefixTable (env.getD "GATEWAY_ROUTE_PREFIXES" defaultPrefixTable) = .ok prefixes)
    (hm : readRestrictions (env.getD "ACCESS_RESTRICTED_ROUTES" "") = .error e) :
    Settings.fromEnv env = .error (.variable "ACCESS_RESTRICTED_ROUTES" e) := by
  unfold Settings.fromEnv
  rw [hs]
  dsimp only [bind, Except.bind, pure, Except.pure]
  rw [hr]
  dsimp only
  rw [readVariable, ht]
  dsimp only [Except.mapError]
  rw [readVariable, hm]
  rfl

/-- Once the secret and the three tables are read, reading ends by validating the record. -/
theorem fromEnv_of_tables (hs : env.get? "JWT_SECRET" = some secret)
    (hr : collectRoutes env.vars NameMap.empty = .ok collected)
    (ht : readPrefixTable (env.getD "GATEWAY_ROUTE_PREFIXES" defaultPrefixTable) = .ok prefixes)
    (hm : readRestrictions (env.getD "ACCESS_RESTRICTED_ROUTES" "") = .ok restricted) :
    Settings.fromEnv env = ((env.settingsOf secret collected prefixes restricted).validate >>=
      fun _ => pure (env.settingsOf secret collected prefixes restricted)) := by
  unfold Settings.fromEnv
  rw [hs]
  dsimp only [bind, Except.bind, pure, Except.pure]
  rw [hr]
  dsimp only
  rw [readVariable, ht]
  dsimp only [Except.mapError]
  rw [readVariable, hm]
  dsimp only [Except.mapError, bind, Except.bind, pure, Except.pure, settingsOf]

/-! ## The route table -/

variable (env) in
/-- The routes the variables define, each from the last variable that defines it. -/
def definedRoutes : NameMap (List Endpoint) := NameMap.ofList (env.vars.filterMap definedRoute)

/-- The routes are read exactly when every variable is accepted, and are then the defined
routes. -/
theorem collectRoutes_eq_ok_iff :
    collectRoutes env.vars NameMap.empty = .ok collected ↔
      env.RoutesAccepted ∧ collected = env.definedRoutes := by
  constructor
  · intro h
    have hacc := accepted_of_collectRoutes_eq_ok h
    rw [collectRoutes_of_accepted hacc] at h
    exact ⟨hacc, (Except.ok.inj h).symm⟩
  · rintro ⟨hacc, rfl⟩
    exact collectRoutes_of_accepted hacc _

/-- The environment's own routes are none exactly when no variable defines a route. -/
theorem definedRoutes_isEmpty_iff : env.definedRoutes.isEmpty = true ↔ ¬env.DefinesSomeRoute := by
  rw [definedRoutes, NameMap.isEmpty_ofList_iff, List.filterMap_eq_nil_iff]
  simp only [DefinesSomeRoute, not_exists, not_and]
  refine forall₂_congr fun p _ => ?_
  rw [Option.eq_none_iff_forall_ne_some]
  constructor
  · intro h r eps hdef
    exact h (r, eps) ((definedRoute_eq_some_iff p r eps).2 hdef)
  · rintro h ⟨r, eps⟩ hsome
    exact h r eps ((definedRoute_eq_some_iff p r eps).1 hsome)

/-- An environment that defines a route has routes of its own. -/
theorem definedRoutes_isEmpty_eq_false (hdef : env.DefinesSomeRoute) :
    env.definedRoutes.isEmpty = false :=
  Bool.eq_false_iff.2 fun h => definedRoutes_isEmpty_iff.1 h hdef

/-- A route is among the environment's own routes exactly when a variable defines it. -/
theorem definedRoutes_contains_iff (r : String) :
    env.definedRoutes.contains r = true ↔ ∃ p ∈ env.vars, ∃ eps, Defines p r eps := by
  rw [definedRoutes, NameMap.contains_ofList_iff]
  simp only [List.mem_filterMap, definedRoute_eq_some_iff]
  constructor
  · rintro ⟨eps, p, hp, hdef⟩
    exact ⟨p, hp, eps, hdef⟩
  · rintro ⟨p, hp, eps, hdef⟩
    exact ⟨eps, p, hp, hdef⟩

/-- The development routes are `default`, `security` and `system`. -/
theorem developmentRoutes_contains_iff (r : String) :
    developmentRoutes.contains r = true ↔ r ∈ ["default", "security", "system"] := by
  rw [developmentRoutes, NameMap.contains_ofList_iff]
  simp only [List.mem_cons, Prod.mk.injEq, List.not_mem_nil, or_false]
  constructor
  · rintro ⟨v, ⟨rfl, -⟩ | ⟨rfl, -⟩ | ⟨rfl, -⟩⟩ <;> simp
  · rintro (rfl | rfl | rfl) <;> simp

/-! ## Validating the record -/

/-- The record's secret is blank exactly when the secret set in the environment is. -/
theorem secretIsBlank_settingsOf (hs : env.get? "JWT_SECRET" = some secret) :
    (env.settingsOf secret collected prefixes restricted).secretIsBlank = true ↔
      env.SecretBlank := by
  simp [Settings.secretIsBlank, settingsOf, SecretBlank, hs, String.isEmpty_iff]

/-- The record's token lifetime is in range exactly when the environment's is. -/
theorem lifetimeInRange_settingsOf :
    (env.settingsOf secret collected prefixes restricted).lifetimeInRange = true ↔
      env.LifetimeInRange := by
  simp only [Settings.lifetimeInRange, settingsOf, LifetimeInRange, Bool.and_eq_true]
  exact ⟨fun h => ⟨of_decide_eq_true h.1, of_decide_eq_true h.2⟩,
    fun h => ⟨decide_eq_true h.1, decide_eq_true h.2⟩⟩

/-- The record's rate is zero exactly when the environment's is. -/
theorem rateIsZero_settingsOf :
    (env.settingsOf secret collected prefixes restricted).rateIsZero = true ↔ env.RateIsZero := by
  simp [Settings.rateIsZero, settingsOf, RateIsZero]

/-- The record's default route is in its table exactly when the default route setting is a
route some variable defines, or a development route when no variable defines one. -/
theorem hasDefaultRoute_settingsOf :
    (env.settingsOf secret env.definedRoutes prefixes restricted).hasDefaultRoute = true ↔
      env.DefaultRouteKnown := by
  simp only [Settings.hasDefaultRoute, settingsOf, DefaultRouteKnown]
  by_cases hdef : env.DefinesSomeRoute
  · rw [definedRoutes_isEmpty_eq_false hdef, if_neg (by decide), definedRoutes_contains_iff]
    simp [hdef]
  · have he : env.definedRoutes.isEmpty = true := definedRoutes_isEmpty_iff.2 hdef
    rw [he, if_pos rfl, developmentRoutes_contains_iff]
    simp [hdef]

end Environment

namespace Settings

/-- Validation fails exactly at its first failed check, with that check's error. -/
theorem validate_eq_error_iff (s : Settings) (err : ConfigError) :
    s.validate = .error err ↔
      (s.secretIsBlank = true ∧ err = .secretBlank) ∨
      (s.secretIsBlank = false ∧ s.lifetimeInRange = false ∧
        err = .lifetimeOutOfRange s.token.lifetimeHours) ∨
      (s.secretIsBlank = false ∧ s.lifetimeInRange = true ∧ s.rateIsZero = true ∧
        err = .zeroRate) ∨
      (s.secretIsBlank = false ∧ s.lifetimeInRange = true ∧ s.rateIsZero = false ∧
        s.hasDefaultRoute = false ∧ err = .noDefaultRoute s.routing.defaultRoute) := by
  unfold validate
  cases s.secretIsBlank <;> cases s.lifetimeInRange <;> cases s.rateIsZero <;>
    cases s.hasDefaultRoute <;> simp [eq_comm]

end Settings

section Validated

variable {s t : Settings} {err : ConfigError}

/-- Validating and then keeping a record gives that record exactly when it is valid. -/
theorem validate_bind_eq_ok_iff :
    (s.validate >>= fun _ => pure s : Except ConfigError Settings) = .ok t ↔
      s.validate = .ok () ∧ t = s := by
  cases s.validate with
  | error e => simp [bind, Except.bind]
  | ok u => simp [bind, Except.bind, pure, Except.pure, eq_comm]

/-- Validating and then keeping a record fails with the validation's own error. -/
theorem validate_bind_eq_error_iff :
    (s.validate >>= fun _ => pure s : Except ConfigError Settings) = .error err ↔
      s.validate = .error err := by
  cases s.validate with
  | error e => simp [bind, Except.bind]
  | ok u => simp [bind, Except.bind, pure, Except.pure]

end Validated

/-! ## Reading, check by check -/

namespace Environment

variable {env : Environment} {secret : String} {prefixes : List (String × String)}
  {restricted : NameMap (List String)} {err : ConfigError}

/-- The record built from the read tables passes validation exactly when the last four checks
pass. -/
theorem validate_settingsOf_eq_ok_iff (hs : env.get? "JWT_SECRET" = some secret) :
    (env.settingsOf secret env.definedRoutes prefixes restricted).validate = .ok () ↔
      ¬env.SecretBlank ∧ env.LifetimeInRange ∧ ¬env.RateIsZero ∧ env.DefaultRouteKnown := by
  simp only [Settings.validate_eq_ok_iff, ← Bool.not_eq_true, secretIsBlank_settingsOf hs,
    lifetimeInRange_settingsOf, rateIsZero_settingsOf, hasDefaultRoute_settingsOf]

/-- Reading succeeds exactly when the secret is set, every variable and both tables read, and
the record built from them passes validation; the result is that record. -/
theorem fromEnv_eq_ok_iff (s : Settings) :
    Settings.fromEnv env = .ok s ↔
      ∃ secret prefixes restricted, env.get? "JWT_SECRET" = some secret ∧ env.RoutesAccepted ∧
        readPrefixTable (env.getD "GATEWAY_ROUTE_PREFIXES" defaultPrefixTable) = .ok prefixes ∧
        readRestrictions (env.getD "ACCESS_RESTRICTED_ROUTES" "") = .ok restricted ∧
        (env.settingsOf secret env.definedRoutes prefixes restricted).validate = .ok () ∧
        s = env.settingsOf secret env.definedRoutes prefixes restricted := by
  constructor
  · intro h
    -- every stage that fails makes the reading fail, so each one read
    cases hs : env.get? "JWT_SECRET" with
    | none => rw [fromEnv_of_secretUnset hs] at h; cases h
    | some secret =>
      cases hr : collectRoutes env.vars NameMap.empty with
      | error e => rw [fromEnv_of_routes_error hs hr] at h; cases h
      | ok collected =>
        obtain ⟨hacc, rfl⟩ := collectRoutes_eq_ok_iff.1 hr
        cases ht : readPrefixTable (env.getD "GATEWAY_ROUTE_PREFIXES" defaultPrefixTable) with
        | error e => rw [fromEnv_of_prefixes_error hs hr ht] at h; cases h
        | ok prefixes =>
          cases hm : readRestrictions (env.getD "ACCESS_RESTRICTED_ROUTES" "") with
          | error e => rw [fromEnv_of_restrictions_error hs hr ht hm] at h; cases h
          | ok restricted =>
            rw [fromEnv_of_tables hs hr ht hm, validate_bind_eq_ok_iff] at h
            exact ⟨secret, prefixes, restricted, rfl, hacc, rfl, rfl, h⟩
  · rintro ⟨secret, prefixes, restricted, hs, hacc, ht, hm, hv, rfl⟩
    rw [fromEnv_of_tables hs (collectRoutes_eq_ok_iff.2 ⟨hacc, rfl⟩) ht hm,
      validate_bind_eq_ok_iff]
    exact ⟨hv, rfl⟩

/-- Once the first four checks pass, reading fails exactly at the first of the last four that
fails, with its error. -/
theorem fromEnv_eq_error_iff_of_accepted (hset : env.SecretSet) (hacc : env.RoutesAccepted)
    (hpre : env.PrefixesAccepted) (hres : env.RestrictionsAccepted) :
    Settings.fromEnv env = .error err ↔
      (env.SecretBlank ∧ err = .secretBlank) ∨
      (¬env.SecretBlank ∧ ¬env.LifetimeInRange ∧
        err = .lifetimeOutOfRange (env.signedOr "JWT_TOKEN_TTL_HOURS" 72)) ∨
      (¬env.SecretBlank ∧ env.LifetimeInRange ∧ env.RateIsZero ∧ err = .zeroRate) ∨
      (¬env.SecretBlank ∧ env.LifetimeInRange ∧ ¬env.RateIsZero ∧ ¬env.DefaultRouteKnown ∧
        err = .noDefaultRoute (env.getD "GATEWAY_DEFAULT_ROUTE" "default")) := by
  obtain ⟨secret, hs⟩ := hset
  obtain ⟨prefixes, ht⟩ := hpre
  obtain ⟨restricted, hm⟩ := hres
  rw [fromEnv_of_tables hs (collectRoutes_eq_ok_iff.2 ⟨hacc, rfl⟩) ht hm,
    validate_bind_eq_error_iff, Settings.validate_eq_error_iff]
  simp only [← Bool.not_eq_true, secretIsBlank_settingsOf hs, lifetimeInRange_settingsOf,
    rateIsZero_settingsOf, hasDefaultRoute_settingsOf]
  exact Iff.rfl

/-- Every error of reading is the failure of the first stage that fails. -/
theorem readFailure_of_fromEnv_eq_error (h : Settings.fromEnv env = .error err) :
    env.ReadFailure err := by
  -- the stages in the order reading takes them; the first that fails gives the error
  cases hs : env.get? "JWT_SECRET" with
  | none =>
    rw [fromEnv_of_secretUnset hs] at h
    cases h
    exact .secretUnset hs
  | some secret =>
    have hset : env.SecretSet := ⟨secret, hs⟩
    cases hr : collectRoutes env.vars NameMap.empty with
    | error e =>
      rw [fromEnv_of_routes_error hs hr] at h
      cases h
      exact .routeRefused hset ((collectRoutes_eq_error_iff _ _ _).1 hr)
    | ok collected =>
      obtain ⟨hacc, rfl⟩ := collectRoutes_eq_ok_iff.1 hr
      cases ht : readPrefixTable (env.getD "GATEWAY_ROUTE_PREFIXES" defaultPrefixTable) with
      | error e =>
        rw [fromEnv_of_prefixes_error hs hr ht] at h
        cases h
        exact .prefixesRefused hset hacc ht
      | ok prefixes =>
        have hpre : env.PrefixesAccepted := ⟨prefixes, ht⟩
        cases hm : readRestrictions (env.getD "ACCESS_RESTRICTED_ROUTES" "") with
        | error e =>
          rw [fromEnv_of_restrictions_error hs hr ht hm] at h
          cases h
          exact .restrictionsRefused hset hacc hpre hm
        | ok restricted =>
          have hres : env.RestrictionsAccepted := ⟨restricted, hm⟩
          rcases (fromEnv_eq_error_iff_of_accepted hset hacc hpre hres).1 h with
            ⟨hb, rfl⟩ | ⟨hb, hl, rfl⟩ | ⟨hb, hl, hz, rfl⟩ | ⟨hb, hl, hz, hd, rfl⟩
          · exact .secretBlank hset hacc hpre hres hb
          · exact .lifetimeOutOfRange hset hacc hpre hres hb hl
          · exact .zeroRate hset hacc hpre hres hb hl hz
          · exact .noDefaultRoute hset hacc hpre hres hb hl hz hd

/-- The failure of the first stage that fails is the error reading gives. -/
theorem fromEnv_eq_error_of_readFailure (h : env.ReadFailure err) :
    Settings.fromEnv env = .error err := by
  cases h with
  | secretUnset hs => exact fromEnv_of_secretUnset hs
  | routeRefused hset hfirst =>
    obtain ⟨secret, hs⟩ := hset
    exact fromEnv_of_routes_error hs ((collectRoutes_eq_error_iff _ _ _).2 hfirst)
  | prefixesRefused hset hacc ht =>
    obtain ⟨secret, hs⟩ := hset
    exact fromEnv_of_prefixes_error hs (collectRoutes_eq_ok_iff.2 ⟨hacc, rfl⟩) ht
  | restrictionsRefused hset hacc hpre hm =>
    obtain ⟨secret, hs⟩ := hset
    obtain ⟨prefixes, ht⟩ := hpre
    exact fromEnv_of_restrictions_error hs (collectRoutes_eq_ok_iff.2 ⟨hacc, rfl⟩) ht hm
  | secretBlank hset hacc hpre hres hb =>
    exact (fromEnv_eq_error_iff_of_accepted hset hacc hpre hres).2 (.inl ⟨hb, rfl⟩)
  | lifetimeOutOfRange hset hacc hpre hres hb hl =>
    exact (fromEnv_eq_error_iff_of_accepted hset hacc hpre hres).2 (.inr (.inl ⟨hb, hl, rfl⟩))
  | zeroRate hset hacc hpre hres hb hl hz =>
    exact (fromEnv_eq_error_iff_of_accepted hset hacc hpre hres).2
      (.inr (.inr (.inl ⟨hb, hl, hz, rfl⟩)))
  | noDefaultRoute hset hacc hpre hres hb hl hz hd =>
    exact (fromEnv_eq_error_iff_of_accepted hset hacc hpre hres).2
      (.inr (.inr (.inr ⟨hb, hl, hz, hd, rfl⟩)))

/-- Reading gives a record exactly when the environment is readable: every stage succeeds and
the record passes validation. -/
theorem fromEnv_isOk_iff : (∃ s, Settings.fromEnv env = .ok s) ↔ env.Readable := by
  constructor
  · rintro ⟨s, h⟩
    obtain ⟨secret, prefixes, restricted, hs, hacc, ht, hm, hv, -⟩ := (fromEnv_eq_ok_iff s).1 h
    obtain ⟨hb, hl, hz, hd⟩ := (validate_settingsOf_eq_ok_iff hs).1 hv
    exact ⟨⟨secret, hs⟩, hacc, ⟨prefixes, ht⟩, ⟨restricted, hm⟩, hb, hl, hz, hd⟩
  · rintro ⟨⟨secret, hs⟩, hacc, ⟨prefixes, ht⟩, ⟨restricted, hm⟩, hb, hl, hz, hd⟩
    have hv : (env.settingsOf secret env.definedRoutes prefixes restricted).validate = .ok () :=
      (validate_settingsOf_eq_ok_iff hs).2 ⟨hb, hl, hz, hd⟩
    exact ⟨_, (fromEnv_eq_ok_iff _).2 ⟨secret, prefixes, restricted, hs, hacc, ht, hm, hv, rfl⟩⟩

/-- The record built from the read secret, routes and tables holds the settings of its
variables. -/
theorem readFrom_settingsOf (hs : env.get? "JWT_SECRET" = some secret)
    (hacc : env.RoutesAccepted)
    (ht : readPrefixTable (env.getD "GATEWAY_ROUTE_PREFIXES" defaultPrefixTable) = .ok prefixes)
    (hm : readRestrictions (env.getD "ACCESS_RESTRICTED_ROUTES" "") = .ok restricted) :
    env.ReadFrom (env.settingsOf secret env.definedRoutes prefixes restricted) where
  port := rfl
  adminPort := rfl
  secret := hs
  lifetime := rfl
  exemptPaths := rfl
  developmentRoutes hnd := if_pos (definedRoutes_isEmpty_iff.2 hnd)
  definedRoutes hdef r eps := by
    show (if env.definedRoutes.isEmpty then developmentRoutes else env.definedRoutes).find? r =
      some eps ↔ _
    rw [definedRoutes_isEmpty_eq_false hdef, if_neg (by decide)]
    exact find?_collectRoutes hacc r eps
  prefixes := ht
  defaultRoute := rfl
  restricted := hm
  blacklist := rfl
  whitelist := rfl
  enableBlacklist := rfl
  enableWhitelist := rfl
  enableRestricted := rfl
  rateEnabled := rfl
  perSecond := rfl
  failureThreshold := rfl
  coolDown := rfl
  connectTimeout := rfl
  poolIdleTimeout := rfl
  maxBodyBytes := rfl

/-- Reading the settings succeeds exactly when the eight checks pass, and the record then holds
the settings of its variables; otherwise it fails with the error of the first check that fails.
A setting is its variable's text read by the setting's reader, or its default: a number when
the variable is unset or its text does not read, a flag only when the variable is unset. -/
theorem fromEnv_first_failed_check :
    ((∃ s, Settings.fromEnv env = .ok s) ↔ env.Readable) ∧
      (∀ s, Settings.fromEnv env = .ok s → env.ReadFrom s) ∧
      (∀ err, Settings.fromEnv env = .error err ↔ env.ReadFailure err) ∧
      (∀ name d, env.flagOr name d = true ↔
        (∃ s, env.get? name = some s ∧ lowerText (trim s) ∈ ["true", "1", "yes"]) ∨
          (env.get? name = none ∧ d = true)) ∧
      (∀ name limit d n, env.numberOr name limit d = n ↔
        (∃ s, env.get? name = some s ∧ readUnsigned limit s = .ok n) ∨
          ((∀ s, env.get? name = some s → ∀ k, readUnsigned limit s ≠ .ok k) ∧ n = d)) ∧
      ∀ name d n, env.signedOr name d = n ↔
        (∃ s, env.get? name = some s ∧ readI64 s = .ok n) ∨
          ((∀ s, env.get? name = some s → ∀ k, readI64 s ≠ .ok k) ∧ n = d) := by
  refine ⟨fromEnv_isOk_iff, ?_, fun err => ⟨readFailure_of_fromEnv_eq_error,
    fromEnv_eq_error_of_readFailure⟩, env.flagOr_eq_true_iff, env.numberOr_eq_iff,
    env.signedOr_eq_iff⟩
  intro s h
  obtain ⟨secret, prefixes, restricted, hs, hacc, ht, hm, -, rfl⟩ := (fromEnv_eq_ok_iff s).1 h
  exact readFrom_settingsOf hs hacc ht hm

end Environment

end ApiGateway.Config
