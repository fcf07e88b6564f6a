import Mathlib
import ApiGateway.Proofs.Pipeline

/-!
# What reaches the backend

A request that passes every check is passed on with its headers edited in three places: the
token gate replaces the identity headers, the request id is ensured, and the forwarding step
drops the connection headers and `host` and extends the forwarded chain. Each edit touches
its own names only and reads nothing but them, so the headers that reach the backend are the
client's, name by name, except for exactly these:

* no value of a connection header or of `host` remains;
* the client's `x-user-id` and `x-user-role` values are gone, and each claim of a verified
  token that is a valid header value is the only value of its header, so a client never
  passes an identity of its own and an exempt path passes none at all;
* `x-request-id` is kept when its first value is non-empty visible text, and is otherwise the
  fresh id alone, which is then the request's id;
* `x-forwarded-for` is extended by the peer's address.

The method and body are the client's, and the target is the endpoint's address followed by
the request's path and query.

`forwardedValues` states these rules name by name; `getAll_forwarded` shows the edits follow
them, one lemma per edit (`getAll_attachIdentity`, `getAll_ensureRequestId`, `prepare_eq_ok`).
-/

namespace ApiGateway.Gateway

open ApiGateway.Http

/-! ## One lemma per edit -/

/-- Removing other names leaves a name's values as they were. -/
theorem getAll_foldl_remove_of_not_mem (names : List HeaderName) (m : HeaderMap)
    {n : HeaderName} (hn : n ∉ names) : (names.foldl HeaderMap.remove m).getAll n = m.getAll n := by
  induction names generalizing m with
  | nil => rfl
  | cons k rest ih =>
    simp only [List.mem_cons, not_or] at hn
    rw [List.foldl_cons, ih _ hn.2, HeaderMap.getAll_remove_of_ne _ hn.1]

/-- The strip drops the connection headers and leaves every other name alone. -/
theorem getAll_stripHopByHop (m : HeaderMap) (n : HeaderName) :
    (stripHopByHop m).getAll n = if n ∈ hopByHopHeaders then [] else m.getAll n := by
  split
  · exact stripHopByHop_getAll m n ‹_›
  · exact getAll_foldl_remove_of_not_mem hopByHopHeaders m ‹_›

/-- The header values that carry a claim: the claim alone when it is a valid header value,
and nothing for an invalid claim or without an identity. -/
def claimValues (claim : Option String) : List HeaderValue :=
  (claim.bind HeaderValue.ofString?).toList

/-- Makes a text the only value of a header when it is a valid header value, and leaves the
map as it is otherwise: how the identity and the forwarded chain are written. -/
def setIfValid (m : HeaderMap) (n : HeaderName) (text : String) : HeaderMap :=
  match HeaderValue.ofString? text with
  | some v => m.insert n v
  | none => m

/-- Written to a header without values, the text becomes its only value, if valid. -/
theorem getAll_setIfValid (m : HeaderMap) (n : HeaderName) (text : String)
    (hm : m.getAll n = []) : (setIfValid m n text).getAll n = claimValues (some text) := by
  cases hv : HeaderValue.ofString? text with
  | none => simp [setIfValid, claimValues, hv, hm]
  | some v => simp [setIfValid, claimValues, hv]

/-- Setting a field leaves every other name's values as they were. -/
theorem getAll_setIfValid_of_ne (m : HeaderMap) {n n' : HeaderName} (text : String)
    (hne : n' ≠ n) : (setIfValid m n text).getAll n' = m.getAll n' := by
  unfold setIfValid
  cases HeaderValue.ofString? text with
  | none => rfl
  | some v => exact HeaderMap.getAll_insert_of_ne m v hne

/-- The role and the user id travel in headers of different names. -/
theorem userRoleHeader_ne_userIdHeader : userRoleHeader ≠ userIdHeader := by decide

/-- With an identity, the client's identity headers are cleared and each claim is written. -/
theorem attachIdentity_some (h : HeaderMap) (i : Identity) :
    attachIdentity h (some i) =
      setIfValid (setIfValid ((h.remove userIdHeader).remove userRoleHeader) userIdHeader
        i.subjectId) userRoleHeader i.role := by
  cases hid : HeaderValue.ofString? i.subjectId <;> cases hrole : HeaderValue.ofString? i.role <;>
    simp [attachIdentity, setIfValid, hid, hrole]

/-- The identity headers carry the verified claims and nothing from the client; every other
name is left alone. -/
theorem getAll_attachIdentity (h : HeaderMap) (identity : Option Identity) (n : HeaderName) :
    (attachIdentity h identity).getAll n =
      if n = userIdHeader then claimValues (identity.map Identity.subjectId)
      else if n = userRoleHeader then claimValues (identity.map Identity.role)
      else h.getAll n := by
  have hid : ((h.remove userIdHeader).remove userRoleHeader).getAll userIdHeader = [] := by
    rw [HeaderMap.getAll_remove_of_ne _ userRoleHeader_ne_userIdHeader.symm,
      HeaderMap.getAll_remove]
  cases identity with
  | none =>
    by_cases h1 : n = userIdHeader
    · subst h1
      simp [attachIdentity, hid, claimValues]
    · by_cases h2 : n = userRoleHeader
      · subst h2
        simp [attachIdentity, HeaderMap.getAll_remove, claimValues]
      · simp [attachIdentity, h1, h2, HeaderMap.getAll_remove_of_ne _ h1,
          HeaderMap.getAll_remove_of_ne _ h2]
  | some i =>
    rw [attachIdentity_some, Option.map_some, Option.map_some]
    by_cases h1 : n = userIdHeader
    · -- the role is written after the id, under another name
      subst h1
      rw [getAll_setIfValid_of_ne _ _ userRoleHeader_ne_userIdHeader.symm,
        getAll_setIfValid _ _ _ hid, if_pos rfl]
    · by_cases h2 : n = userRoleHeader
      · subst h2
        have hrole : (setIfValid ((h.remove userIdHeader).remove userRoleHeader) userIdHeader
            i.subjectId).getAll userRoleHeader = [] := by
          rw [getAll_setIfValid_of_ne _ _ userRoleHeader_ne_userIdHeader,
            HeaderMap.getAll_remove]
        rw [getAll_setIfValid _ _ _ hrole, if_neg userRoleHeader_ne_userIdHeader, if_pos rfl]
      · rw [getAll_setIfValid_of_ne _ _ h2, getAll_setIfValid_of_ne _ _ h1, if_neg h1, if_neg h2,
          HeaderMap.getAll_remove_of_ne _ h2, HeaderMap.getAll_remove_of_ne _ h1]

/-- The first text of a name depends only on that name's values. -/
theorem firstText?_congr {m m' : HeaderMap} {n : HeaderName} (h : m.getAll n = m'.getAll n) :
    firstText? m n = firstText? m' n := by
  simp [firstText?, HeaderMap.get?, h]

/-- The request id is the client's first `x-request-id` when that is non-empty visible
text; otherwise it is the fresh id, which replaces the header. -/
theorem ensureRequestId_eq (h : HeaderMap) (fresh : String) :
    ensureRequestId h fresh =
      match firstText? h requestIdHeader with
      | some id => (id, h)
      | none => (fresh, h.insert requestIdHeader (.ofText fresh)) := by
  unfold ensureRequestId firstText?
  cases h.get? requestIdHeader with
  | none => rfl
  | some v =>
    cases hv : v.text? with
    | none => simp [hv]
    | some id => by_cases he : id.isEmpty <;> simp [hv, he]

/-- Ensuring the request id touches `x-request-id` only, and only when the client's first
value is no usable id. -/
theorem getAll_ensureRequestId (h : HeaderMap) (fresh : String) (n : HeaderName) :
    (ensureRequestId h fresh).2.getAll n =
      if n = requestIdHeader ∧ firstText? h requestIdHeader = none then [.ofText fresh]
      else h.getAll n := by
  rw [ensureRequestId_eq]
  cases hf : firstText? h requestIdHeader with
  | some id => simp
  | none =>
    by_cases hn : n = requestIdHeader
    · subst hn
      simp
    · simp [hn, HeaderMap.getAll_insert_of_ne _ _ hn]

/-- The forwarded chain is written like a claim: the old first value with the peer after it,
or the peer alone. -/
theorem appendForwardedFor_eq (m : HeaderMap) (ip : String) :
    appendForwardedFor m ip =
      setIfValid m forwardedForHeader
        (match firstText? m forwardedForHeader with
          | some old => old ++ ", " ++ ip
          | none => ip) := by
  unfold appendForwardedFor setIfValid
  rfl

/-- Extending the forwarded chain touches `x-forwarded-for` only. -/
theorem getAll_appendForwardedFor_of_ne (m : HeaderMap) (ip : String) {n : HeaderName}
    (hn : n ≠ forwardedForHeader) : (appendForwardedFor m ip).getAll n = m.getAll n := by
  rw [appendForwardedFor_eq, getAll_setIfValid_of_ne _ _ hn]

/-- The extended chain depends on the `x-forwarded-for` values alone. -/
theorem getAll_appendForwardedFor_congr {m m' : HeaderMap} (ip : String)
    (hm : m.getAll forwardedForHeader = m'.getAll forwardedForHeader) :
    (appendForwardedFor m ip).getAll forwardedForHeader =
      (appendForwardedFor m' ip).getAll forwardedForHeader := by
  rw [appendForwardedFor_eq, appendForwardedFor_eq, firstText?_congr hm]
  unfold setIfValid
  split
  · simp
  · exact hm

/-- Dropping the connection headers and `host` leaves every other name alone. -/
theorem getAll_strip_remove_host (m : HeaderMap) (n : HeaderName) :
    ((stripHopByHop m).remove hostHeader).getAll n =
      if n ∈ hopByHopHeaders ∨ n = hostHeader then [] else m.getAll n := by
  by_cases hh : n = hostHeader
  · subst hh
    simp [HeaderMap.getAll_remove]
  · rw [HeaderMap.getAll_remove_of_ne _ hh, getAll_stripHopByHop]
    by_cases hm : n ∈ hopByHopHeaders <;> simp [hm, hh]

/-- The forwarding step: the connection headers and `host` are dropped, the peer extends the
forwarded chain, and every other name is left alone; method and body pass unchanged. -/
theorem prepare_eq_ok {r : Request} {address : String} {maxBody : Nat} {out : Outbound}
    (h : prepare r address maxBody = .ok out) :
    out.method = r.method ∧ out.url = targetUrl address r.uri ∧ out.body = r.body ∧
      ∀ n, out.headers.getAll n =
        if n ∈ hopByHopHeaders ∨ n = hostHeader then []
        else if n = forwardedForHeader then
          match r.peer with
          | some a => (appendForwardedFor r.headers a.ip.render).getAll n
          | none => r.headers.getAll n
        else r.headers.getAll n := by
  unfold prepare at h
  split at h
  · cases h
  · cases h
    refine ⟨rfl, rfl, rfl, fun n => ?_⟩
    by_cases hx : n = forwardedForHeader
    · -- the chain survives the strip, and only the peer's extension changes it
      subst hx
      have hkeep : ((stripHopByHop r.headers).remove hostHeader).getAll forwardedForHeader =
          r.headers.getAll forwardedForHeader := by
        rw [getAll_strip_remove_host, if_neg (by decide)]
      have hh : ¬ (forwardedForHeader ∈ hopByHopHeaders ∨ forwardedForHeader = hostHeader) := by
        decide
      cases r.peer with
      | none => simpa only [hh, if_false, if_true] using hkeep
      | some a =>
        simp only [hh, if_false, if_true]
        exact getAll_appendForwardedFor_congr _ hkeep
    · rw [if_neg hx]
      cases r.peer with
      | none => exact getAll_strip_remove_host r.headers n
      | some a =>
        exact (getAll_appendForwardedFor_of_ne _ _ hx).trans (getAll_strip_remove_host r.headers n)

/-! ## The headers that reach the backend -/

/-- The values each header name carries to the backend, given the client's headers `h`, the
identity the token gate established (none on an exempt path), the fresh request id and the
peer. -/
def forwardedValues (h : HeaderMap) (identity : Option Identity) (fresh : String)
    (peer : Option SocketAddress) (n : HeaderName) : List HeaderValue :=
  if n ∈ hopByHopHeaders ∨ n = hostHeader then []
  else if n = forwardedForHeader then
    match peer with
    | some a => (appendForwardedFor h a.ip.render).getAll n
    | none => h.getAll n
  else if n = userIdHeader then claimValues (identity.map Identity.subjectId)
  else if n = userRoleHeader then claimValues (identity.map Identity.role)
  else if n = requestIdHeader ∧ firstText? h requestIdHeader = none then [.ofText fresh]
  else h.getAll n

/-- The token gate's edits leave the request id and the forwarded chain to the client. -/
theorem getAll_withIdentity (req : Request) (identity : Option Identity) (fresh : String)
    (n : HeaderName) :
    (GatewayState.withIdentity req identity fresh).headers.getAll n =
      if n = userIdHeader then claimValues (identity.map Identity.subjectId)
      else if n = userRoleHeader then claimValues (identity.map Identity.role)
      else if n = requestIdHeader ∧ firstText? req.headers requestIdHeader = none then
        [.ofText fresh]
      else req.headers.getAll n := by
  have hrid : firstText? (attachIdentity req.headers identity) requestIdHeader =
      firstText? req.headers requestIdHeader := by
    apply firstText?_congr
    rw [getAll_attachIdentity, if_neg (by decide), if_neg (by decide)]
  simp only [GatewayState.withIdentity, getAll_ensureRequestId, hrid, getAll_attachIdentity]
  by_cases h1 : n = userIdHeader
  · subst h1
    simp +decide
  · by_cases h2 : n = userRoleHeader
    · subst h2
      simp +decide
    · simp [h1, h2]

/-- Name by name, the request passed on carries the values `forwardedValues` gives. -/
theorem getAll_forwarded {req : Request} {identity : Option Identity} {fresh address : String}
    {maxBody : Nat} {out : Outbound}
    (h : prepare (GatewayState.withIdentity req identity fresh) address maxBody = .ok out)
    (n : HeaderName) :
    out.headers.getAll n = forwardedValues req.headers identity fresh req.peer n := by
  obtain ⟨-, -, -, hheaders⟩ := prepare_eq_ok h
  rw [hheaders n]
  unfold forwardedValues
  by_cases hh : n ∈ hopByHopHeaders ∨ n = hostHeader
  · simp only [hh, if_true]
  · simp only [hh, if_false]
    by_cases hx : n = forwardedForHeader
    · subst hx
      simp only [if_true]
      -- the token gate's edits leave the chain as the client sent it
      have hchain : (GatewayState.withIdentity req identity fresh).headers.getAll
          forwardedForHeader = req.headers.getAll forwardedForHeader := by
        rw [getAll_withIdentity]
        simp +decide
      cases hp : req.peer with
      | none => simpa [GatewayState.withIdentity, hp] using hchain
      | some a =>
        simp only [GatewayState.withIdentity, hp]
        exact getAll_appendForwardedFor_congr _ hchain
    · simp only [hx, if_false]
      exact getAll_withIdentity req identity fresh n

/-! ## From the checks to the backend -/

namespace GatewayState

variable {g g' : GatewayState} {env : Surroundings} {req : Request} {out : Outbound}

/-- A request that leaves the checks ready to send was prepared by the token gate, the route
and the body limit of the gateway it arrived at: the access, rate and breaker checks change
none of these. -/
theorem prepareFor_of_outbound (h : g.outbound env req = (.ok out, g')) :
    g.prepareFor env req req.uri.path = .ok out := by
  simp only [outbound] at h
  rw [show clientIp req.headers req.peer = client req from rfl] at h
  cases hc : (g.settle env).access.check (client req) req.uri.path with
  | error d => simp [hc] at h
  | ok u =>
    cases hp : (g.settle env).passRateLimit (client req) with
    | mk admitted g₁ =>
      cases admitted with
      | false => simp [hc, hp] at h
      | true =>
        have ha := passRateLimit_eq_true_iff.1 hp
        cases hb : g₁.breaker.allows with
        | false => simp [hc, hp, hb] at h
        | true =>
          simp only [hc, hp, hb, ha.prepareFor, Bool.not_true, Bool.false_eq_true, if_false,
            Prod.mk.injEq] at h
          exact h.1

/-- A prepared request went through the token gate with an identity and to the endpoint the
route's draw picked. -/
theorem prepareFor_eq_ok (h : g.prepareFor env req req.uri.path = .ok out) :
    ∃ identity ep, g.authenticator.Passes req.headers req.uri.path env.now identity ∧
      g.Picks env req ep ∧
      prepare (withIdentity req identity env.freshId) ep.address g.maxBodyBytes = .ok out := by
  rw [prepareFor_eq] at h
  cases ha : g.authenticator.authenticate req.headers req.uri.path env.now with
  | error e => rw [ha] at h; cases h
  | ok identity =>
    rw [ha] at h
    cases hc : g.chooseEndpoint env (g.registry.routeFor req.uri.path) with
    | none => simp [Except.bind, hc] at h
    | some ep =>
      simp only [Except.bind, hc] at h
      exact ⟨identity, ep, Authenticator.authenticate_eq_ok_iff.1 ha,
        chooseEndpoint_eq_some_iff.1 hc, h⟩

end GatewayState

open GatewayState in
/-- A request that passes every check reaches the backend with the client's method and body, at
the endpoint's address followed by the request's path and query, and with the client's headers
edited exactly as `forwardedValues` says: the token gate passed it with an identity (none on an
exempt path, the verified token's claims otherwise), the request id is the client's usable one
or the fresh id, and every header name outside the edited ones keeps all its values in order. -/
theorem outbound_forwarded (g g' : GatewayState) (env : Surroundings) (req : Request)
    (out : Outbound) (h : g.outbound env req = (.ok out, g')) :
    ∃ identity ep, g.authenticator.Passes req.headers req.uri.path env.now identity ∧
      g.Picks env req ep ∧ out.method = req.method ∧
      out.url = "http://" ++ ep.address ++ req.uri.pathAndQuery?.getD "/" ∧ out.body = req.body ∧
      (ensureRequestId (attachIdentity req.headers identity) env.freshId).1 =
        (firstText? req.headers requestIdHeader).getD env.freshId ∧
      ∀ n, out.headers.getAll n = forwardedValues req.headers identity env.freshId req.peer n := by
  obtain ⟨identity, ep, hpass, hpick, hprep⟩ := prepareFor_eq_ok (prepareFor_of_outbound h)
  obtain ⟨hmethod, hurl, hbody, -⟩ := prepare_eq_ok hprep
  have hrid : firstText? (attachIdentity req.headers identity) requestIdHeader =
      firstText? req.headers requestIdHeader := by
    apply firstText?_congr
    rw [getAll_attachIdentity, if_neg (by decide), if_neg (by decide)]
  refine ⟨identity, ep, hpass, hpick, hmethod, hurl, hbody, ?_, getAll_forwarded hprep⟩
  rw [ensureRequestId_eq, hrid]
  cases firstText? req.headers requestIdHeader <;> rfl

/-- A gateway whose one route has one endpoint and whose only path is exempt from tokens. -/
def exemptGateway : GatewayState :=
  ⟨⟨NameMap.ofList [("default", [⟨"b:1", 1⟩])], [], "default"⟩,
    ⟨NameSet.empty, NameSet.empty, NameMap.empty, false, false, false⟩, none,
    Breaker.new 5 10, ⟨⟨"secret", 72⟩, NameSet.ofList ["/"]⟩, 1024, Clock.ofSeconds 0⟩

/-- A request for the exempt path with a forged identity and a connection header. -/
def forgedRequest : Request :=
  ⟨Method.get, ⟨none, [], [47]⟩,
    ⟨[(userIdHeader, .ofText "admin"), (⟨"connection"⟩, .ofText "close")]⟩, [], none⟩

/-- A request for the exempt path that forges an identity header and asks to close the
connection is passed on with neither: the backend gets only the request id. -/
theorem outbound_forwarded_forged :
    exemptGateway.outbound (Surroundings.unreachable "id" 0) forgedRequest =
        (.ok ⟨Method.get, "http://b:1/", ⟨[(requestIdHeader, .ofText "id")]⟩, []⟩,
          exemptGateway.settle (Surroundings.unreachable "id" 0)) ∧
      ∃ identity ep, exemptGateway.authenticator.Passes forgedRequest.headers
          forgedRequest.uri.path (Surroundings.unreachable "id" 0).now identity ∧
        exemptGateway.Picks (Surroundings.unreachable "id" 0) forgedRequest ep ∧
        (⟨Method.get, "http://b:1/", ⟨[(requestIdHeader, .ofText "id")]⟩, []⟩ : Outbound).method =
          forgedRequest.method ∧
        (⟨Method.get, "http://b:1/", ⟨[(requestIdHeader, .ofText "id")]⟩, []⟩ : Outbound).url =
          "http://" ++ ep.address ++ forgedRequest.uri.pathAndQuery?.getD "/" ∧
        (⟨Method.get, "http://b:1/", ⟨[(requestIdHeader, .ofText "id")]⟩, []⟩ : Outbound).body =
          forgedRequest.body ∧
        (ensureRequestId (attachIdentity forgedRequest.headers identity)
            (Surroundings.unreachable "id" 0).freshId).1 =
          (firstText? forgedRequest.headers requestIdHeader).getD
            (Surroundings.unreachable "id" 0).freshId ∧
        ∀ n, (⟨Method.get, "http://b:1/", ⟨[(requestIdHeader, .ofText "id")]⟩, []⟩ :
            Outbound).headers.getAll n =
          forwardedValues forgedRequest.headers identity (Surroundings.unreachable "id" 0).freshId
            forgedRequest.peer n :=
  ⟨rfl, outbound_forwarded _ _ _ _ _ rfl⟩

end ApiGateway.Gateway
