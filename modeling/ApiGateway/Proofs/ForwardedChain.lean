import Mathlib
import ApiGateway.Proofs.ForwardedClient

/-!
# The forwarded chain a backend receives

Each proxy on a request's way is meant to add the address it heard the request from to
`x-forwarded-for`. The gateway reads the chain as a header map reads a name: through its
first value only, and only when that value is non-empty visible text. It then writes the
extended chain back in place of every value the name had. So the request passed on carries
exactly one `x-forwarded-for` value, which reads back as text:

* the client's first value, `", "` and the peer's address, when the first value is readable;
* the peer's address alone otherwise: no value, an empty first value, or one with bytes
  outside visible ASCII.

Whatever stood in a second or later value is gone, and so is a first value that does not
read as text.

Main statements:
* `getAll_appendForwardedFor`: extending the chain leaves it one value.
* `outbound_forwardedFor`: the one value a backend receives, for every request passed on.
* `outbound_forwardedFor_drops_later_values`: a second proxy's value is lost.
-/

namespace ApiGateway.Gateway

open ApiGateway.Http

/-- Extending the chain leaves exactly one value: the old first value with the peer after it,
or the peer alone. -/
theorem getAll_appendForwardedFor (m : HeaderMap) (ip : IpAddr) :
    (appendForwardedFor m ip.render).getAll forwardedForHeader =
      [.ofText (extendedChain m ip.render)] := by
  rw [appendForwardedFor_eq_extendedChain, setIfValid_of_visible _ _ (extendedChain_visible m ip),
    HeaderMap.getAll_insert]

section Outbound

variable {g g' : GatewayState} {env : Surroundings} {req : Request} {out : Outbound}
  {a : SocketAddress}

/-- The `x-forwarded-for` values of a request passed on are the client's, extended by the
peer: the token gate and the request id leave the chain alone. -/
theorem outbound_getAll_forwardedFor (hp : req.peer = some a)
    (h : g.outbound env req = (.ok out, g')) :
    out.headers.getAll forwardedForHeader = [.ofText (extendedChain req.headers a.ip.render)] := by
  obtain ⟨identity, ep, -, -, hprep⟩ :=
    GatewayState.prepareFor_eq_ok (GatewayState.prepareFor_of_outbound h)
  rw [getAll_forwarded hprep, hp, forwardedValues_forwardedFor, getAll_appendForwardedFor]

/-- A request the gateway passes on from peer `a` carries exactly one `x-forwarded-for`
value, and it reads as text: the client's first value followed by `", "` and `a`'s address
when that value is non-empty visible text, and `a`'s address alone otherwise. -/
theorem outbound_forwardedFor (hp : req.peer = some a) (h : g.outbound env req = (.ok out, g')) :
    ∃ chain, out.headers.getAll forwardedForHeader = [.ofText chain] ∧
      (HeaderValue.ofText chain).text? = some chain ∧
      chain = match firstText? req.headers forwardedForHeader with
        | some old => old ++ ", " ++ a.ip.render
        | none => a.ip.render :=
  ⟨_, outbound_getAll_forwardedFor hp h, HeaderValue.text?_ofText (extendedChain_visible _ _), rfl⟩

end Outbound

/-- A request for the exempt path from the peer `127.0.0.1`, on which two earlier proxies
wrote `10.0.0.1` and `10.0.0.2` as separate `x-forwarded-for` values. -/
def twoProxyRequest : Request :=
  ⟨Method.get, ⟨none, [], [47]⟩,
    ⟨[(forwardedForHeader, .ofText "10.0.0.1"), (forwardedForHeader, .ofText "10.0.0.2")]⟩, [],
    some ⟨.v4 127 0 0 1, 40000⟩⟩

/-- Nothing in the exempt gateway refuses the request: it is passed on. -/
theorem twoProxyRequest_passes : ∃ out g',
    exemptGateway.outbound (Surroundings.unreachable "id" 0) twoProxyRequest = (.ok out, g') :=
  ⟨_, _, rfl⟩

/-- The request that came through two proxies is passed on with one `x-forwarded-for`
value, the first of the client's values followed by the peer. -/
theorem outbound_forwardedFor_twoProxies :
    ∃ out g', exemptGateway.outbound (Surroundings.unreachable "id" 0) twoProxyRequest =
        (.ok out, g') ∧
      ∃ chain, out.headers.getAll forwardedForHeader = [.ofText chain] ∧
        (HeaderValue.ofText chain).text? = some chain ∧
        chain = match firstText? twoProxyRequest.headers forwardedForHeader with
          | some old => old ++ ", " ++ (IpAddr.v4 127 0 0 1).render
          | none => (IpAddr.v4 127 0 0 1).render := by
  obtain ⟨out, g', h⟩ := twoProxyRequest_passes
  exact ⟨out, g', h, outbound_forwardedFor rfl h⟩

/-- The backend receives `10.0.0.1, 127.0.0.1`: the hop `10.0.0.2` that the second proxy
recorded is lost. -/
theorem outbound_forwardedFor_drops_later_values :
    ∃ out g', exemptGateway.outbound (Surroundings.unreachable "id" 0) twoProxyRequest =
        (.ok out, g') ∧
      out.headers.getAll forwardedForHeader = [.ofText "10.0.0.1, 127.0.0.1"] ∧
      out.headers.getAll forwardedForHeader ≠ [.ofText "10.0.0.1, 10.0.0.2, 127.0.0.1"] := by
  obtain ⟨out, g', h⟩ := twoProxyRequest_passes
  have hvalues := outbound_getAll_forwardedFor rfl h
  -- only the first value is read, and the peer's address follows it
  have hchain : extendedChain twoProxyRequest.headers (IpAddr.v4 127 0 0 1).render =
      "10.0.0.1, 127.0.0.1" := by
    decide +kernel
  rw [hchain] at hvalues
  refine ⟨out, g', h, hvalues, ?_⟩
  rw [hvalues]
  decide +kernel

end ApiGateway.Gateway
