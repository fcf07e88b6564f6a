import ApiGateway.Http.Header

/-!
# Request methods

A request method is a non-empty token (letters, digits and the marks of header names),
compared with its case: `GET` and `get` are different methods.
-/

namespace ApiGateway.Http

/-- A request method. -/
structure Method where
  /-- The method's token, case kept. -/
  name : String
  deriving DecidableEq, Repr

namespace Method

/-- The method spelled by a text, if the text is a token. -/
def ofString? (s : String) : Option Method :=
  if !s.isEmpty && s.toList.all isTokenChar then some ⟨s⟩ else none

/-- The preflight method. -/
def options : Method := ⟨"OPTIONS"⟩

/-- The default method. -/
def get : Method := ⟨"GET"⟩

end Method

end ApiGateway.Http
