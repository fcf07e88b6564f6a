import ApiGateway.Text.Numeral

/-!
# Settings errors

Two layers of failure. An `EntryError` says what is wrong with one settings text (an
endpoint list, a prefix table, a restricted-route table). A `ConfigError` says why the
whole settings record could not be built or was refused: it names the variable whose
text was wrong, or the check that failed.

Each kind has one sentence, given by `message`; a variable's failure is its name and
the entry's sentence joined by `": "`.
-/

namespace ApiGateway.Config

open ApiGateway.Text

/-- What is wrong with one settings text. -/
inductive EntryError where
  /-- The weight after `=` in an endpoint item is not a 32-bit number. -/
  | invalidWeight (item : String) (cause : NumeralError)
  /-- An endpoint address has no `:`. -/
  | notHostPort (address : String)
  /-- An endpoint address has nothing before its last `:`. -/
  | emptyHost (address : String)
  /-- The text after an endpoint address's last `:` is not a 16-bit number. -/
  | invalidPort (address : String) (cause : NumeralError)
  /-- An endpoint list names no endpoint. -/
  | emptyEndpointList
  /-- A prefix-table item is not `/prefix=route`. -/
  | malformedPrefixEntry (item : String)
  /-- A restricted-route item has no `=`. -/
  | malformedRestriction (item : String)
  /-- A restricted-route prefix does not start with `/`. -/
  | restrictionPrefix (pathPrefix : String)
  deriving DecidableEq, Repr

/-- The sentence that reports an entry error. -/
def EntryError.message : EntryError → String
  | .invalidWeight item cause => "Invalid weight in '" ++ item ++ "': " ++ cause.message
  | .notHostPort address => "Endpoint '" ++ address ++ "' must be host:port"
  | .emptyHost address => "Endpoint '" ++ address ++ "' has an empty host"
  | .invalidPort address cause =>
    "Invalid port in endpoint '" ++ address ++ "': " ++ cause.message
  | .emptyEndpointList => "Endpoint list is empty"
  | .malformedPrefixEntry item => "Prefix entry '" ++ item ++ "' must be /prefix=route"
  | .malformedRestriction item => "Restricted route '" ++ item ++ "' must be /prefix=ip|ip"
  | .restrictionPrefix p => "Restricted route prefix '" ++ p ++ "' must start with '/'"

/-- Why a settings record could not be built or was refused. -/
inductive ConfigError where
  /-- The text of the named variable is wrong. -/
  | variable (name : String) (cause : EntryError)
  /-- The signing secret variable is not set. -/
  | secretUnset
  /-- The signing secret is empty or blank. -/
  | secretBlank
  /-- The token lifetime is outside one hour to one leap year. -/
  | lifetimeOutOfRange (hours : Int)
  /-- Rate limiting is on with a rate of zero. -/
  | zeroRate
  /-- The default route has no endpoint list. -/
  | noDefaultRoute (name : String)
  deriving DecidableEq, Repr

/-- The longest token lifetime in hours: one leap year. -/
def maxLifetimeHours : Int := 24 * 366

/-- The sentence that reports a settings error. -/
def ConfigError.message : ConfigError → String
  | .variable name cause => "Failed to parse " ++ name ++ ": " ++ cause.message
  | .secretUnset => "JWT_SECRET must be set: environment variable not found"
  | .secretBlank => "JWT_SECRET must not be empty"
  | .lifetimeOutOfRange hours =>
    "JWT_TOKEN_TTL_HOURS must be between 1 and " ++ toString maxLifetimeHours ++ ", got " ++
      toString hours
  | .zeroRate => "RATE_LIMIT_REQUESTS_PER_SECOND must be greater than 0"
  | .noDefaultRoute name => "Default route '" ++ name ++ "' has no endpoints configured"

end ApiGateway.Config
