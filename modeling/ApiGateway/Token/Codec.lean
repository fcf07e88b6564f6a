import ApiGateway.Text.Blank
import ApiGateway.Text.Base64Url
import ApiGateway.Crypto.Hmac
import ApiGateway.Json.Tree
import ApiGateway.Token.Error
import ApiGateway.Token.Header
import ApiGateway.Token.Claims

/-!
# Signing and checking tokens

A token is three base64url parts joined by dots: the header, the claims and the
signature, which is the HMAC-SHA256 of the first two parts (with their dot) under the
shared secret.

Checking a token runs these steps in order, and the first failure is the answer:

1. the token splits at its last dot into the signed part and the signature, and the
   signed part at its last dot into header and claims;
2. the header part is base64url, and its bytes are a JSON header;
3. the header names HMAC-SHA256;
4. the signature is the written form of the signed part's HMAC;
5. the claims part is base64url, and its bytes are JSON claims and registered claims;
6. the expiry is a non-negative integer;
7. the expiry is not before the present moment;
8. the token names no audience: an absent, unreadable or empty audience passes.

Main statements:
* `verify_noDot`: a token without a dot is refused as malformed.
-/

namespace ApiGateway.Token

open ApiGateway.Text ApiGateway.Crypto

/-- The signature text of a signed part. -/
def signature (secret : List UInt8) (signed : String) : String :=
  Base64Url.encode (hmacSha256 secret signed.toUTF8.toList)

/-- Signs claims with HMAC-SHA256 under the secret. -/
def sign (secret : List UInt8) (c : Claims) : String :=
  let signed := Base64Url.encode Header.hs256Text.toUTF8.toList ++ "." ++
    Base64Url.encode c.render.toUTF8.toList
  signed ++ "." ++ signature secret signed

/-- Lifts a missing result to an error. -/
def orFail {α : Type} (e : TokenError) : Option α → Except TokenError α
  | some a => .ok a
  | none => .error e

/-- Checks a token at moment `now` (seconds) and answers its claims. -/
def verify (secret : List UInt8) (now : Nat) (token : String) : Except TokenError Claims := do
  let (signed, sig) ← orFail .invalidToken (splitLast '.' token)
  let (headerPart, claimsPart) ← orFail .invalidToken (splitLast '.' signed)
  let headerBytes ← orFail .base64 (Base64Url.decode headerPart)
  let header ← orFail .json ((Json.read? headerBytes).bind Header.ofTree?)
  if header.algorithm != .hs256 then throw .invalidAlgorithm
  if signature secret signed != sig then throw .invalidSignature
  let claimsBytes ← orFail .base64 (Base64Url.decode claimsPart)
  let tree ← orFail .json (Json.read? claimsBytes)
  let claims ← orFail .json (Claims.ofTree? tree)
  let registered ← orFail .json (RegisteredClaims.ofTree? tree)
  match registered.expiry with
  | .parsed exp => if exp < now then throw .expiredSignature
  | _ => throw (.missingRequiredClaim "exp")
  match registered.audience with
  | .parsed (.single _) => throw .invalidAudience
  | .parsed (.several names) => if !names.isEmpty then throw .invalidAudience
  | _ => pure ()
  pure claims

/-- A token without a dot is refused as malformed. -/
theorem verify_noDot (secret : List UInt8) (now : Nat) (token : String)
    (h : splitLast '.' token = none) : verify secret now token = .error .invalidToken := by
  simp [verify, h, orFail, bind, Except.bind]

end ApiGateway.Token
