import ApiGateway.Json.Record
import ApiGateway.Json.Writer

/-!
# Token claims

A token carries four claims: the subject id and role as texts, and the issue and expiry
moments as signed 64-bit seconds. They are written as a compact JSON object in that
order, and read from an object by name (each exactly once; other fields are passed
over) or from an array of the four by position.

Checking a token reads a second, lenient view of the same JSON: the registered claims
`exp`, `nbf`, `sub`, `iss` and `aud`, each at most once, where a value of the wrong kind
counts as unreadable rather than failing, unless reading it loses the reader's place
(see `Json.Record`). An audience is a text or a list of texts, read whole, so that it may
nest one container fewer than the strict reader's limit.
-/

namespace ApiGateway.Token

open ApiGateway.Json

/-- The claims of a token. -/
structure Claims where
  /-- The subject's id. -/
  subjectId : String
  /-- The subject's role. -/
  role : String
  /-- The moment of issue, in seconds. -/
  issuedAt : Int
  /-- The moment of expiry, in seconds. -/
  expiresAt : Int
  deriving DecidableEq, Repr

namespace Claims

/-- The claims as compact JSON. -/
def render (c : Claims) : String :=
  Json.object [("sub_id", Json.quote c.subjectId), ("role", Json.quote c.role),
    ("iat", Json.int c.issuedAt), ("exp", Json.int c.expiresAt)]

/-- The names of the claims in their order. -/
def fieldNames : List String := ["sub_id", "role", "iat", "exp"]

/-- Reads the claims from their fields, given by name. -/
def ofFields? (get : String → Option Tree) : Option Claims := do
  pure ⟨← (← get "sub_id").text?, ← (← get "role").text?, ← (← get "iat").int64?,
    ← (← get "exp").int64?⟩

/-- Reads the claims from a JSON value: an object by name or an array by position. -/
def ofTree? : Tree → Option Claims
  | .object members => do
    let fields ← knownFields fieldNames members
    ofFields? (fieldValue fields)
  | .array items =>
    if items.length == fieldNames.length then ofFields? (fieldValue (fieldNames.zip items))
    else none
  | _ => none

end Claims

/-- The audience a token names. -/
inductive Audience where
  /-- One audience. -/
  | single (name : String)
  /-- A list of audiences, possibly empty. -/
  | several (names : List String)
  deriving DecidableEq, Repr

/-- Reads an audience or issuer leniently: null is absent; otherwise the whole value is
read, inside the container of the claims, and it is an audience when it is a text or a list
of texts. -/
def Tree.leniencyAudience (t : Tree) : Option (Presence Audience) :=
  match t with
  | .null => some .absent
  | _ =>
    match t.outcomeWithin (nestingLimit - 1) with
    | .failedOutOfPlace => none
    | .failedInPlace => some .unreadable
    | .read =>
      match t with
      | .string (.text s) => some (.parsed (.single s))
      | .array items =>
        match items.mapM Tree.text? with
        | some names => some (.parsed (.several names))
        | none => some .unreadable
      | _ => some .unreadable

/-- The registered claims that decide whether a token is still valid. -/
structure RegisteredClaims where
  /-- The expiry as a non-negative number of seconds. -/
  expiry : Presence Nat
  /-- The audience. -/
  audience : Presence Audience
  deriving DecidableEq, Repr

namespace RegisteredClaims

/-- The names of the registered claims in their order. -/
def fieldNames : List String := ["exp", "nbf", "sub", "iss", "aud"]

/-- Reads the registered claims from their fields, given by name; an absent field is
absent. -/
def ofFields? (get : String → Option Tree) : Option RegisteredClaims := do
  let lenient {α} (name : String) (read : Tree → Option (Presence α)) :
      Option (Presence α) :=
    match get name with
    | some v => read v
    | none => some .absent
  let expiry ← lenient "exp" Tree.leniencyNat
  let _ ← lenient "nbf" Tree.leniencyNat
  let _ ← lenient "sub" Tree.leniencyText
  let _ ← lenient "iss" Tree.leniencyAudience
  let audience ← lenient "aud" Tree.leniencyAudience
  pure ⟨expiry, audience⟩

/-- Reads the registered claims from a JSON value: an object by name or an array of all
five by position. -/
def ofTree? : Tree → Option RegisteredClaims
  | .object members => do
    let fields ← knownFields fieldNames members
    ofFields? (fieldValue fields)
  | .array items =>
    if items.length == fieldNames.length then ofFields? (fieldValue (fieldNames.zip items))
    else none
  | _ => none

end RegisteredClaims

end ApiGateway.Token
