import ApiGateway.Text.Blank
import ApiGateway.Text.Case
import ApiGateway.Text.Numeral
import ApiGateway.Text.Utf8
import ApiGateway.Config.Entries
import ApiGateway.Config.Basic

/-!
# Settings from the environment

The settings record is read from environment variables. Every setting has a variable and
a default:

* numbers (ports, token lifetime, rate, breaker and client limits) take their default
  when the variable is unset or its text is not a number of the setting's width;
* flags are on when the trimmed, lowercased text is `true`, `1` or `yes`, off for any
  other text, and take their default when unset;
* lists and tables are read by the formats of `Config.Entries`, and a malformed one fails
  naming its variable;
* the signing secret has no default: without it the record cannot be built.

Endpoint lists come from every variable named `<NAME>_SERVICE_ENDPOINTS` with a
non-empty `<NAME>`, in the order the environment lists them; the route name is `<NAME>`
lowercased and a later variable for the same route replaces an earlier one. A variable
whose name or value is not UTF-8 is passed over. When no such variable is set the
routes are the three local development routes.

The record is built part by part in a fixed order (ports, token, routing, access, rate,
breaker, client), so of two faults the earlier part's is reported, and it is validated
last.

Main statements:
* `flagOr_unset`: an unset flag takes its default.
-/

namespace ApiGateway.Config

open ApiGateway.Text

/-- The process environment: variables with byte names and values, in the order the
process lists them. -/
structure Environment where
  /-- The variables, as name and value bytes. -/
  vars : List (List UInt8 × List UInt8)

namespace Environment

/-- The environment of the given texts, in the order given. -/
def ofTexts (l : List (String × String)) : Environment :=
  ⟨l.map fun v => (v.1.toUTF8.toList, v.2.toUTF8.toList)⟩

/-- The text of a variable; a variable whose value is not UTF-8 counts as unset. -/
def get? (env : Environment) (name : String) : Option String :=
  match env.vars.find? (fun v => v.1 == name.toUTF8.toList) with
  | some v => ofUtf8? v.2
  | none => none

/-- The text of a variable, or the default when it is unset. -/
def getD (env : Environment) (name default : String) : String :=
  (env.get? name).getD default

/-- An unsigned number of at most `limit`, or the default when unset or unreadable. -/
def numberOr (env : Environment) (name : String) (limit default : Nat) : Nat :=
  match env.get? name with
  | some s => match readUnsigned limit s with
    | .ok n => n
    | .error _ => default
  | none => default

/-- A signed 64-bit number, or the default when unset or unreadable. -/
def signedOr (env : Environment) (name : String) (default : Int) : Int :=
  match env.get? name with
  | some s => match readI64 s with
    | .ok n => n
    | .error _ => default
  | none => default

/-- Whether a flag's text turns it on. -/
def flagText (s : String) : Bool :=
  lowerText (trim s) ∈ ["true", "1", "yes"]

/-- A flag: on or off by its text, the default when unset. -/
def flagOr (env : Environment) (name : String) (default : Bool) : Bool :=
  match env.get? name with
  | some s => flagText s
  | none => default

end Environment

/-- The name ending of endpoint-list variables. -/
def endpointsSuffix : String := "_SERVICE_ENDPOINTS"

/-- The text before a suffix, when the text ends with it. -/
def stripSuffix? (suffix s : String) : Option String :=
  let cs := s.toList
  let n := cs.length - suffix.length
  if suffix.toList.isSuffixOf cs then some (String.ofList (cs.take n)) else none

/-- The route that one variable defines: none when its name is not UTF-8, is not
`<NAME>_SERVICE_ENDPOINTS` with a non-empty `<NAME>`, or its value is not UTF-8. -/
def routeOfVariable (key value : List UInt8) :
    Except ConfigError (Option (String × List Endpoint)) :=
  match ofUtf8? key with
  | none => .ok none
  | some k =>
    match stripSuffix? endpointsSuffix k with
    | none => .ok none
    | some name =>
      if name.isEmpty then .ok none
      else match ofUtf8? value with
        | none => .ok none
        | some v => match readEndpoints v with
          | .ok eps => .ok (some (lowerText name, eps))
          | .error e => .error (.variable k e)

/-- The routes defined by the variables, in order; the first malformed list fails. -/
def collectRoutes : List (List UInt8 × List UInt8) → NameMap (List Endpoint) →
    Except ConfigError (NameMap (List Endpoint))
  | [], acc => .ok acc
  | (k, v) :: rest, acc =>
    match routeOfVariable k v with
    | .error e => .error e
    | .ok none => collectRoutes rest acc
    | .ok (some (name, eps)) => collectRoutes rest (acc.insert name eps)

/-- The three local development routes used when the environment names none. -/
def developmentRoutes : NameMap (List Endpoint) :=
  NameMap.ofList [("default", [⟨"127.0.0.1:8000", 1⟩]), ("security", [⟨"127.0.0.1:8001", 1⟩]),
    ("system", [⟨"127.0.0.1:8002", 1⟩])]

/-- The exempt paths when none are given. -/
def defaultExemptPaths : String :=
  "/auth/admins/login,/auth/admins/code,/auth/admins/getTest,/swagger/index.html"

/-- The prefix table when none is given. -/
def defaultPrefixTable : String := "/security=security,/system=system,/order=order"

/-- Reads a settings text and names its variable on failure. -/
def readVariable {α : Type} (name : String) (r : Except EntryError α) : Except ConfigError α :=
  r.mapError (ConfigError.variable name)

/-- Builds the settings record from the environment and validates it. -/
def Settings.fromEnv (env : Environment) : Except ConfigError Settings := do
  let port := env.numberOr "PORT" maxU16 8080
  let adminPort := env.numberOr "ADMIN_PORT" maxU16 8081
  let secret ← match env.get? "JWT_SECRET" with
    | some s => pure s
    | none => throw .secretUnset
  let token : TokenSettings :=
    { secret
      lifetimeHours := env.signedOr "JWT_TOKEN_TTL_HOURS" 72
      exemptPaths := readList (env.getD "AUTH_EXEMPT_PATHS" defaultExemptPaths) }
  let routes ← collectRoutes env.vars NameMap.empty
  let routes := if routes.isEmpty then developmentRoutes else routes
  let prefixes ← readVariable "GATEWAY_ROUTE_PREFIXES"
    (readPrefixTable (env.getD "GATEWAY_ROUTE_PREFIXES" defaultPrefixTable))
  let routing : RoutingSettings :=
    { routes, prefixes, defaultRoute := env.getD "GATEWAY_DEFAULT_ROUTE" "default" }
  let restricted ← readVariable "ACCESS_RESTRICTED_ROUTES"
    (readRestrictions (env.getD "ACCESS_RESTRICTED_ROUTES" ""))
  let access : AccessSettings :=
    { blacklist := readList (env.getD "ACCESS_BLACKLIST" "")
      whitelist := readList (env.getD "ACCESS_WHITELIST" "")
      restricted
      enableBlacklist := env.flagOr "ACCESS_ENABLE_BLACKLIST" true
      enableWhitelist := env.flagOr "ACCESS_ENABLE_WHITELIST" false
      enableRestricted := env.flagOr "ACCESS_ENABLE_RESTRICTED" true }
  let settings : Settings :=
    { port, adminPort, token, routing, access
      rate :=
        { enabled := env.flagOr "RATE_LIMIT_ENABLED" true
          perSecond := env.numberOr "RATE_LIMIT_REQUESTS_PER_SECOND" maxU32 1 }
      breaker :=
        { failureThreshold := env.numberOr "CIRCUIT_BREAKER_FAILURE_THRESHOLD" maxU32 5
          coolDownSecs := env.numberOr "CIRCUIT_BREAKER_COOL_DOWN_SECS" maxU64 10 }
      client :=
        { connectTimeoutSecs := env.numberOr "UPSTREAM_CONNECT_TIMEOUT_SECS" maxU64 5
          poolIdleTimeoutSecs := env.numberOr "UPSTREAM_POOL_IDLE_TIMEOUT_SECS" maxU64 90
          maxBodyBytes := env.numberOr "MAX_REQUEST_BODY_SIZE" maxU64 (2 * 1024 * 1024) } }
  settings.validate
  pure settings

namespace Environment

/-- An unset flag takes its default. -/
theorem flagOr_unset (env : Environment) (name : String) (d : Bool) (h : env.get? name = none) :
    env.flagOr name d = d := by
  simp [flagOr, h]

end Environment

end ApiGateway.Config
