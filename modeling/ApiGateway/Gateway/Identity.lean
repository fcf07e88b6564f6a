import ApiGateway.Data.NameSet
import ApiGateway.Http.Header
import ApiGateway.Token.Authority
import ApiGateway.Gateway.Error

/-!
# Caller identity

A request proves who sends it with a bearer token in its first `authorization` header:
the header must be visible text starting with `Bearer ` (one space, that case) and the
rest must be a token the authority accepts. Paths on the exempt list, matched exactly,
need no token and carry no identity.

The identity travels to the backend in the `x-user-id` and `x-user-role` headers. Any such
headers the client sent are dropped first, and a claim that is not a valid header value
is left out, so a client can never pass an identity of its own.

Every request also carries a request id: the client's first `x-request-id` when it is
non-empty visible text, otherwise a fresh one that replaces whatever was there.

Main statements:
* `authenticate_exempt`: an exempt path passes without a token and without an identity.
* `attachIdentity_none`: without an identity no identity header remains.
-/

namespace ApiGateway.Gateway

open ApiGateway.Http ApiGateway.Token

/-- A verified caller. -/
structure Identity where
  /-- The subject's id from the token. -/
  subjectId : String
  /-- The subject's role from the token. -/
  role : String
  deriving DecidableEq, Repr

/-- The header that carries the bearer token. -/
def authorizationHeader : HeaderName := ⟨"authorization"⟩

/-- The header that carries the caller's id to the backend. -/
def userIdHeader : HeaderName := ⟨"x-user-id"⟩

/-- The header that carries the caller's role to the backend. -/
def userRoleHeader : HeaderName := ⟨"x-user-role"⟩

/-- The header that carries the request id. -/
def requestIdHeader : HeaderName := ⟨"x-request-id"⟩

/-- The gate that checks bearer tokens: the authority and the exempt paths. -/
structure Authenticator where
  /-- The token authority. -/
  authority : TokenAuthority
  /-- Paths that need no token. -/
  exempt : NameSet

namespace Authenticator

/-- Whether a path needs no token. -/
def isExempt (a : Authenticator) (path : String) : Bool := a.exempt.contains path

/-- The token of the first `authorization` header, when it is visible text that starts
with `Bearer `. -/
def bearerToken? (headers : HeaderMap) : Option String := do
  let v ← headers.get? authorizationHeader
  let text ← v.text?
  if text.startsWith "Bearer " then some (String.ofList (text.toList.drop 7)) else none

/-- Checks a request's token at moment `now`: no identity on an exempt path, the token's
identity otherwise, or a refusal. -/
def authenticate (a : Authenticator) (headers : HeaderMap) (path : String) (now : Nat) :
    Except GatewayError (Option Identity) :=
  if a.isExempt path then .ok none
  else match bearerToken? headers with
    | none => .error (.unauthorized "Missing bearer token")
    | some token =>
      match a.authority.verify now token with
      | .ok c => .ok (some ⟨c.subjectId, c.role⟩)
      | .error e => .error (.unauthorized ("Invalid token: " ++ e.message))

/-- An exempt path passes without a token and without an identity. -/
theorem authenticate_exempt (a : Authenticator) (headers : HeaderMap) (path : String)
    (now : Nat) (h : a.isExempt path = true) : a.authenticate headers path now = .ok none := by
  simp [authenticate, h]

end Authenticator

/-- Replaces the identity headers: the client's are dropped, and each claim of the
identity that is a valid header value is set. -/
def attachIdentity (headers : HeaderMap) (identity : Option Identity) : HeaderMap :=
  let cleared := (headers.remove userIdHeader).remove userRoleHeader
  match identity with
  | none => cleared
  | some i =>
    let withId := match HeaderValue.ofString? i.subjectId with
      | some v => cleared.insert userIdHeader v
      | none => cleared
    match HeaderValue.ofString? i.role with
    | some v => withId.insert userRoleHeader v
    | none => withId

/-- Without an identity no identity header remains. -/
theorem attachIdentity_none (headers : HeaderMap) :
    (attachIdentity headers none).get? userIdHeader = none ∧
      (attachIdentity headers none).get? userRoleHeader = none := by
  constructor
  · simp only [attachIdentity]
    rw [HeaderMap.get?_remove_of_ne]
    · exact HeaderMap.get?_remove _ _
    · decide
  · simp [attachIdentity]

/-- The request id: the client's first `x-request-id` when it is non-empty visible text,
otherwise `fresh`, which then replaces the header. Answers the id and the headers. -/
def ensureRequestId (headers : HeaderMap) (fresh : String) : String × HeaderMap :=
  match (headers.get? requestIdHeader).bind HeaderValue.text? with
  | some id => if id.isEmpty then (fresh, headers.insert requestIdHeader (.ofText fresh))
    else (id, headers)
  | none => (fresh, headers.insert requestIdHeader (.ofText fresh))

end ApiGateway.Gateway
