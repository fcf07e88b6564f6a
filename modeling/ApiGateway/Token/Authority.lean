import ApiGateway.Text.Blank
import ApiGateway.Config.Basic
import ApiGateway.Token.Codec

/-!
# The token authority

The authority issues and checks the gateway's bearer tokens with one shared secret. It
refuses to start with a blank secret or with a token lifetime outside one hour to one
leap year. A token it issues at moment `t` carries `t` as its issue moment and expires
one lifetime later.

Main statements:
* `issue_lifetime`: an issued token lives exactly the configured number of hours.
-/

namespace ApiGateway.Token

open ApiGateway.Text

/-- Why the authority refused to start. -/
inductive AuthorityError where
  /-- The secret is empty or blank. -/
  | blankSecret
  /-- The lifetime is outside one hour to one leap year. -/
  | lifetimeOutOfRange
  deriving DecidableEq, Repr

/-- The sentence that reports the refusal. -/
def AuthorityError.message : AuthorityError → String
  | .blankSecret => "JWT secret must not be empty"
  | .lifetimeOutOfRange =>
    "JWT token lifetime must be between 1 and " ++ toString Config.maxLifetimeHours ++ " hours"

/-- The token authority: the shared secret and the lifetime of issued tokens. -/
structure TokenAuthority where
  /-- The shared secret. -/
  secret : String
  /-- The lifetime of issued tokens in hours. -/
  lifetimeHours : Int
  deriving Repr

namespace TokenAuthority

/-- Starts an authority from the token settings. -/
def new (s : Config.TokenSettings) : Except AuthorityError TokenAuthority :=
  if (trim s.secret).isEmpty then .error .blankSecret
  else if !(1 ≤ s.lifetimeHours && s.lifetimeHours ≤ Config.maxLifetimeHours) then
    .error .lifetimeOutOfRange
  else .ok ⟨s.secret, s.lifetimeHours⟩

/-- The secret's bytes. -/
def key (a : TokenAuthority) : List UInt8 := a.secret.toUTF8.toList

/-- Signs claims. -/
def sign (a : TokenAuthority) (c : Claims) : String := Token.sign a.key c

/-- Checks a token at moment `now` (seconds). -/
def verify (a : TokenAuthority) (now : Nat) (token : String) : Except TokenError Claims :=
  Token.verify a.key now token

/-- The claims of a token issued at moment `now`. -/
def issue (a : TokenAuthority) (subjectId role : String) (now : Int) : Claims :=
  ⟨subjectId, role, now, now + a.lifetimeHours * 3600⟩

/-- Issues a signed token at moment `now`. -/
def create (a : TokenAuthority) (subjectId role : String) (now : Int) : String :=
  a.sign (a.issue subjectId role now)

/-- An issued token lives exactly the configured number of hours. -/
theorem issue_lifetime (a : TokenAuthority) (subjectId role : String) (now : Int) :
    (a.issue subjectId role now).expiresAt - (a.issue subjectId role now).issuedAt =
      a.lifetimeHours * 3600 := by
  simp only [issue]
  omega

end TokenAuthority

end ApiGateway.Token
