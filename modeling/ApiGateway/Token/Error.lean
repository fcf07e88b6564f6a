/-!
# Token errors

Why a bearer token was refused. The kinds follow the order in which a token is checked:
its shape, its header, its algorithm, its signature, its claims and their validity.
Each kind has a name, and a sentence that is the name itself for the plain kinds. The
two kinds that wrap a lower-level failure, unreadable base64 and unreadable JSON, name the
layer that failed; the token library's sentence for them goes on with `: ` and that layer's
own description of the failure (the base64 decoder's or the JSON reader's), which comes
from outside this library and is not reproduced: `message` gives the sentence up to it.
-/

namespace ApiGateway.Token

/-- Why a token was refused. -/
inductive TokenError where
  /-- The token is not three dot-separated parts. -/
  | invalidToken
  /-- A part is not base64url without padding. -/
  | base64
  /-- The header or the claims are not the expected JSON. -/
  | json
  /-- The header names an algorithm other than HMAC-SHA256. -/
  | invalidAlgorithm
  /-- The signature does not match. -/
  | invalidSignature
  /-- The expiry lies in the past. -/
  | expiredSignature
  /-- The token names an audience, and none is accepted. -/
  | invalidAudience
  /-- A required claim is missing or not a non-negative integer. -/
  | missingRequiredClaim (claim : String)
  deriving DecidableEq, Repr

namespace TokenError

/-- The name of the kind. -/
def kind : TokenError → String
  | .invalidToken => "InvalidToken"
  | .base64 => "Base64"
  | .json => "Json"
  | .invalidAlgorithm => "InvalidAlgorithm"
  | .invalidSignature => "InvalidSignature"
  | .expiredSignature => "ExpiredSignature"
  | .invalidAudience => "InvalidAudience"
  | .missingRequiredClaim _ => "MissingRequiredClaim"

/-- Whether the kind wraps a lower-level failure, whose description ends its sentence. -/
def wrapsFailure : TokenError → Bool
  | .base64 | .json => true
  | _ => false

/-- The sentence that reports the error; for a wrapped failure, the part before the lower
layer's description. -/
def message : TokenError → String
  | .base64 => "Base64 error"
  | .json => "JSON error"
  | .missingRequiredClaim c => "Missing required claim: " ++ c
  | e => e.kind

end TokenError

end ApiGateway.Token
