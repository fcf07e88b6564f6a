import ApiGateway.Text.Blank
import ApiGateway.Http.Header
import ApiGateway.Http.Address

/-!
# The client's address

Access control and rate limiting key on the client's address, read from the request in
this order:

1. the first `x-forwarded-for` value, when it is non-empty visible text: its first entry,
   up to the first comma, with blanks trimmed;
2. else the first `x-real-ip` value, when it is non-empty visible text, as it stands;
3. else the peer's IP address, without its port;
4. else the empty text.

The headers are set by a trusted proxy in front of the gateway, so their values are
taken as text and never read as addresses: `::1` and `127.0.0.1` stay two clients.

Main statements:
* `clientIp_peer`: without either header the client is the peer's address.
* `clientIp_forwarded`: a readable `x-forwarded-for` decides the client on its own.
-/

namespace ApiGateway.Gateway

open ApiGateway.Http ApiGateway.Text

/-- The header that lists the client and the proxies a request passed through. -/
def forwardedForHeader : HeaderName := ⟨"x-forwarded-for"⟩

/-- The header in which a proxy names the client. -/
def realIpHeader : HeaderName := ⟨"x-real-ip"⟩

/-- The text of a header's first value, when it is non-empty visible text. -/
def firstText? (headers : HeaderMap) (n : HeaderName) : Option String :=
  match headers.get? n with
  | some v => match v.text? with
    | some s => if s.isEmpty then none else some s
    | none => none
  | none => none

/-- The first entry of a comma-separated chain, blanks trimmed. -/
def firstEntry (chain : String) : String :=
  trim (String.ofList (chain.toList.takeWhile (· ≠ ',')))

/-- The client's address: the first forwarded entry, the real-IP header, the peer's IP
address or the empty text, in that order. -/
def clientIp (headers : HeaderMap) (peer : Option SocketAddress) : String :=
  match firstText? headers forwardedForHeader with
  | some chain => firstEntry chain
  | none =>
    match firstText? headers realIpHeader with
    | some ip => ip
    | none =>
      match peer with
      | some a => a.ip.render
      | none => ""

/-- Without either header the client is the peer's address. -/
theorem clientIp_peer (headers : HeaderMap) (a : SocketAddress)
    (hf : headers.get? forwardedForHeader = none) (hr : headers.get? realIpHeader = none) :
    clientIp headers (some a) = a.ip.render := by
  simp [clientIp, firstText?, hf, hr]

/-- A readable `x-forwarded-for` decides the client on its own, whatever the peer. -/
theorem clientIp_forwarded (headers : HeaderMap) (peer : Option SocketAddress) (chain : String)
    (h : firstText? headers forwardedForHeader = some chain) :
    clientIp headers peer = firstEntry chain := by
  simp [clientIp, h]

end ApiGateway.Gateway
