import ApiGateway.Text.Blank
import ApiGateway.Config.Entries

/-!
# Writing settings texts

Each settings text format of `Config.Entries` has a writer beside its reader:

* a list is its items joined by `,`;
* an endpoint list is its items `address=weight` joined by `,`, the weight in decimal;
* a prefix table is its items `/prefix=route` joined by `,`, in order;
* a restricted-route table is its items `/prefix=addr|addr` joined by `;`, in prefix order.

The writers put no blanks around separators, so reading what they write gives back the
items, as long as no item holds a separator or a blank at either end.
-/

namespace ApiGateway.Config

open ApiGateway.Text

/-- Writes a list: the items joined by `,`. -/
def renderList (items : List String) : String :=
  joinText ',' items

/-- Writes one endpoint as `address=weight`. -/
def renderEndpoint (e : Endpoint) : String :=
  e.address ++ "=" ++ toString e.weight

/-- Writes an endpoint list. -/
def renderEndpoints (eps : List Endpoint) : String :=
  joinText ',' (eps.map renderEndpoint)

/-- Writes a prefix table. -/
def renderPrefixTable (table : List (String × String)) : String :=
  joinText ',' (table.map fun e => e.1 ++ "=" ++ e.2)

/-- Writes a restricted-route table. -/
def renderRestrictions (m : NameMap (List String)) : String :=
  joinText ';' (m.toList.map fun e => e.1 ++ "=" ++ joinText '|' e.2)

example : (readEndpoints (renderEndpoints [⟨"h:1", 2⟩, ⟨"[::1]:80", 0⟩])).toOption =
    some [⟨"h:1", 2⟩, ⟨"[::1]:80", 0⟩] := by decide +kernel

example : (readPrefixTable (renderPrefixTable [("/a", "x"), ("/b", "y")])).toOption =
    some [("/a", "x"), ("/b", "y")] := by decide +kernel

end ApiGateway.Config
