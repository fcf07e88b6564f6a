import ApiGateway.Text.Blank
import ApiGateway.Text.Numeral
import ApiGateway.Data.NameMap
import ApiGateway.Routing.Endpoint
import ApiGateway.Config.Error

/-!
# Settings text formats

The gateway's settings arrive as short texts, each in one of four formats:

* a list: items separated by `,`, each trimmed, empty items dropped;
* an endpoint list: list items `host:port` or `host:port=weight`, weight 1 when absent;
* a prefix table: list items `/prefix=route`, in the order given;
* a restricted-route table: items separated by `;`, each `/prefix=addr|addr`; the table
  is ordered by prefix and a later item for a prefix replaces an earlier one.

Within an endpoint item the weight is read first, so a bad weight is reported before a
bad address; the address splits at its last `:`, which lets `[::1]:80` through.

Main statements:
* `readEndpoints_ne_nil`: a successful endpoint list is never empty.
-/

namespace ApiGateway.Config

open ApiGateway.Text

/-- The trimmed, non-empty items of a comma-separated list. -/
def readList (raw : String) : List String :=
  trimmedPieces ',' raw

/-- Reads one endpoint item: the weight after the first `=` (1 when absent), and an
address that splits at its last `:` into a non-empty host and a 16-bit port. -/
def readEndpoint (item : String) : Except EntryError Endpoint := do
  let (address, weight) ← match splitFirst '=' item with
    | some (front, back) =>
      match readUnsigned maxU32 (trim back) with
      | .ok w => pure (trim front, w)
      | .error e => throw (.invalidWeight item e)
    | none => pure (item, 1)
  match splitLast ':' address with
  | none => throw (.notHostPort address)
  | some (host, port) =>
    if host.isEmpty then throw (.emptyHost address)
    else match readUnsigned maxU16 port with
      | .ok _ => pure ⟨address, weight⟩
      | .error e => throw (.invalidPort address e)

/-- Reads an endpoint list; the first bad item decides the failure. -/
def readEndpoints (raw : String) : Except EntryError (List Endpoint) := do
  let eps ← (readList raw).mapM readEndpoint
  if eps.isEmpty then throw .emptyEndpointList else pure eps

/-- An endpoint list that reads has at least one endpoint. -/
theorem readEndpoints_ne_nil (raw : String) (eps : List Endpoint)
    (h : readEndpoints raw = .ok eps) : eps ≠ [] := by
  simp only [readEndpoints] at h
  cases hm : (readList raw).mapM readEndpoint with
  | error e => rw [hm] at h; cases h
  | ok l =>
    rw [hm] at h
    cases l with
    | nil => cases h
    | cons a rest => cases h; simp

/-- Reads one prefix-table item `/prefix=route`. -/
def readPrefixEntry (item : String) : Except EntryError (String × String) :=
  match splitFirst '=' item with
  | none => .error (.malformedPrefixEntry item)
  | some (front, back) =>
    let p := trim front
    let route := trim back
    if p.startsWith "/" && !route.isEmpty then .ok (p, route)
    else .error (.malformedPrefixEntry item)

/-- Reads a prefix table, keeping the order and repeats of its items. -/
def readPrefixTable (raw : String) : Except EntryError (List (String × String)) :=
  (readList raw).mapM readPrefixEntry

/-- Reads one restricted-route item `/prefix=addr|addr`. -/
def readRestriction (item : String) : Except EntryError (String × List String) :=
  match splitFirst '=' item with
  | none => .error (.malformedRestriction item)
  | some (front, back) =>
    let p := trim front
    if p.startsWith "/" then .ok (p, trimmedPieces '|' back)
    else .error (.restrictionPrefix p)

/-- Reads a restricted-route table into a map from prefix to the allowed addresses. -/
def readRestrictions (raw : String) : Except EntryError (NameMap (List String)) := do
  let items ← (trimmedPieces ';' raw).mapM readRestriction
  pure (NameMap.ofList items)

example : readEndpoints "h:80==5" = .error (.invalidWeight "h:80==5" .invalidDigit) := by rfl
example : readEndpoints "=5" = .error (.notHostPort "") := by rfl

end ApiGateway.Config
