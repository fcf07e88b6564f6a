import ApiGateway.Json.Record

/-!
# Keys in token headers

A header may carry a key as a JSON Web Key: an object whose members are the parameters any key
may carry and the parameters of one key type. The key is read whole, so every string in it must
be text and it may nest one container fewer than the strict reader's limit
(`Json.Tree.outcomeWithin`).

The common parameters are optional, null counting as absent, and each may appear once: the use
`use`, the operations `key_ops`, the algorithm `alg`, the identifier `kid` and the certificate
parameters `x5u`, `x5c`, `x5t` and `x5t#S256`. The operations and `x5c` are lists of texts, the
algorithm is one of the key algorithms, and the others are texts.

The remaining members must make up one of four key types: an elliptic-curve key (`kty` `EC`, a
curve `crv`, texts `x` and `y`), an RSA key (`RSA`, texts `n` and `e`), a symmetric key (`oct`,
a text `k`) or an octet key pair (`OKP`, a curve `crv` and a text `x`). Each parameter of the
type appears exactly once, and members the type does not name are passed over. A key type, a
curve and an algorithm are named as the header names its algorithm (`Json.Tree.variantName?`).
-/

namespace ApiGateway.Token

open ApiGateway.Json

namespace Key

/-- The names of the parameters any key may carry. -/
def commonNames : List String := ["use", "key_ops", "alg", "kid", "x5u", "x5c", "x5t", "x5t#S256"]

/-- The algorithms a key may name. -/
def algorithmNames : List String :=
  ["HS256", "HS384", "HS512", "ES256", "ES384", "RS256", "RS384", "RS512", "PS256", "PS384",
    "PS512", "EdDSA", "RSA1_5", "RSA-OAEP", "RSA-OAEP-256"]

/-- The curves a key may name. -/
def curveNames : List String := ["P-256", "P-384", "P-521", "Ed25519"]

/-- Whether a value names one of `names`. -/
def namesOneOf (names : List String) (t : Tree) : Bool :=
  match t.variantName? with
  | some s => names.contains s
  | none => false

/-- Whether a value is text. -/
def isText (t : Tree) : Bool := t.text?.isSome

/-- Whether a value is a list of texts. -/
def isTexts : Tree → Bool
  | .array items => items.all isText
  | _ => false

/-- Whether a value suits a common parameter: null, or a value of the parameter's kind. -/
def commonFits (name : String) : Tree → Bool
  | .null => true
  | v =>
    if name == "key_ops" || name == "x5c" then isTexts v
    else if name == "alg" then namesOneOf algorithmNames v
    else isText v

/-- The key types: the name each gives in `kty`, and the other parameters it requires with the
check each value must pass. -/
def keyTypes : List (String × List (String × (Tree → Bool))) :=
  [("EC", [("crv", namesOneOf curveNames), ("x", isText), ("y", isText)]),
    ("RSA", [("n", isText), ("e", isText)]),
    ("oct", [("k", isText)]),
    ("OKP", [("crv", namesOneOf curveNames), ("x", isText)])]

/-- Whether the members give the parameter `name` at most once, exactly once when `required`,
with a value that passes `check`. -/
def givesOnce (members : List (String × Tree)) (required : Bool) (name : String)
    (check : Tree → Bool) : Bool :=
  match members.filter (·.1 == name) with
  | [] => !required
  | [(_, v)] => check v
  | _ => false

/-- Whether members make up a key type: `kty` names it and each of its parameters is given
once. -/
def typeFits (members : List (String × Tree)) (kind : String × List (String × (Tree → Bool))) :
    Bool :=
  (("kty", namesOneOf [kind.1]) :: kind.2).all fun p => givesOnce members true p.1 p.2

/-- The members of an object whose names are texts. -/
def namedMembers (members : List (StringForm × Tree)) : List (String × Tree) :=
  members.filterMap fun m =>
    match m.1 with
    | .text k => some (k, m.2)
    | _ => none

/-- Whether a header value is a key: read whole within the nesting left inside the header, an
object whose common parameters each appear at most once and suit their kind, and whose other
members make up one of the key types. -/
def fits (v : Tree) : Bool :=
  v.outcomeWithin (nestingLimit - 1) == .read &&
    match v with
    | .object members =>
      let named := namedMembers members
      let others := named.filter fun m => !commonNames.contains m.1
      commonNames.all (fun n => givesOnce named false n (commonFits n)) &&
        keyTypes.any (typeFits others)
    | _ => false

-- An elliptic-curve key with an identifier and a member no key type names.
example : fits (.object [(.text "kty", .string (.text "EC")),
    (.text "crv", .string (.text "P-256")), (.text "x", .string (.text "f83O")),
    (.text "y", .string (.text "x_FE")), (.text "kid", .string (.text "1")),
    (.text "ext", .bool true)]) = true := by decide

-- An RSA key without its exponent, and a symmetric key given twice, are no keys.
example : fits (.object [(.text "kty", .string (.text "RSA")),
      (.text "n", .string (.text "0vx7"))]) = false ∧
    fits (.object [(.text "kty", .string (.text "oct")), (.text "k", .string (.text "GawA")),
      (.text "k", .string (.text "GawB"))]) = false := by decide

end Key

end ApiGateway.Token
