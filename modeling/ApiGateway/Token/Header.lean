import ApiGateway.Token.Key

/-!
# Token headers

The header of a token names its signing algorithm and may carry further optional texts.
It is read from an object by field name, or from an array of the ten fields by position:
`typ`, `alg`, `cty`, `jku`, `jwk`, `kid`, `x5u`, `x5c`, `x5t`, `x5t#S256`. The algorithm is
required and is named either by a text or by an object with that name as its only field
and null as its value. The other fields are optional texts, except `x5c`, an optional
list of texts, and `jwk`, an optional key (`Key.fits`).

Main statements:
* `Algorithm.ofName?_name`: every algorithm is read back from its name.
-/

namespace ApiGateway.Token

open ApiGateway.Json

/-- The signing algorithms a header may name. -/
inductive Algorithm where
  | hs256 | hs384 | hs512
  | es256 | es384
  | rs256 | rs384 | rs512
  | ps256 | ps384 | ps512
  | edDsa
  deriving DecidableEq, Repr

namespace Algorithm

/-- Every algorithm, in a fixed order. -/
def all : List Algorithm :=
  [.hs256, .hs384, .hs512, .es256, .es384, .rs256, .rs384, .rs512, .ps256, .ps384, .ps512,
    .edDsa]

/-- The name of an algorithm in a header. -/
def name : Algorithm → String
  | .hs256 => "HS256" | .hs384 => "HS384" | .hs512 => "HS512"
  | .es256 => "ES256" | .es384 => "ES384"
  | .rs256 => "RS256" | .rs384 => "RS384" | .rs512 => "RS512"
  | .ps256 => "PS256" | .ps384 => "PS384" | .ps512 => "PS512"
  | .edDsa => "EdDSA"

/-- The algorithm of a name. -/
def ofName? (s : String) : Option Algorithm := all.find? (·.name == s)

/-- Every algorithm is read back from its name. -/
theorem ofName?_name (a : Algorithm) : ofName? a.name = some a := by
  cases a <;> rfl

/-- The algorithm a header value names: a text, or an object with the name as its only
field and null as its value. -/
def ofTree? (t : Tree) : Option Algorithm := t.variantName?.bind ofName?

end Algorithm

/-- A token header; only the algorithm and the type matter to checking. -/
structure Header where
  /-- The type, usually `JWT`. -/
  kind : Option String
  /-- The signing algorithm. -/
  algorithm : Algorithm
  deriving DecidableEq, Repr

namespace Header

/-- The names of the header fields in their order. -/
def fieldNames : List String :=
  ["typ", "alg", "cty", "jku", "jwk", "kid", "x5u", "x5c", "x5t", "x5t#S256"]

/-- Whether a value suits an optional header field other than the algorithm. -/
def optionalFits (name : String) (v : Tree) : Bool :=
  if name == "x5c" then v.optTexts?.isSome
  else if name == "jwk" then (match v with | .null => true | _ => Key.fits v)
  else v.optText?.isSome

/-- Reads a header from its fields, given by name; absent optional fields are null. -/
def ofFields? (get : String → Option Tree) : Option Header := do
  let alg ← get "alg"
  let algorithm ← Algorithm.ofTree? alg
  for n in fieldNames do
    if n != "alg" then
      match get n with
      | some v => if !optionalFits n v then none
      | none => pure ()
  let kind ← match get "typ" with
    | some v => v.optText?
    | none => some none
  pure ⟨kind, algorithm⟩

/-- Reads a header from a JSON value: an object by name or an array of all ten fields. -/
def ofTree? : Tree → Option Header
  | .object members => do
    let fields ← knownFields fieldNames members
    ofFields? (fieldValue fields)
  | .array items =>
    if items.length == fieldNames.length then
      ofFields? (fun n => fieldValue (fieldNames.zip items) n)
    else none
  | _ => none

/-- The header of a token signed with HMAC-SHA256, as compact JSON. -/
def hs256Text : String := "\x7b\"typ\":\"JWT\",\"alg\":\"HS256\"\x7d"

end Header

end ApiGateway.Token
