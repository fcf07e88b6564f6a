import Mathlib
import ApiGateway.Proofs.Forwarding

/-!
# The client a backend sees

The gateway keys access control and rate limiting on `clientIp` of the request as it
arrived; a backend behind it reads `clientIp` of the request passed on. The forwarding step
extends `x-forwarded-for` after its first value, or writes the peer alone when that value is
missing, empty or not visible text, and it never reads `x-real-ip`. So the two readings agree
in part only:

* a readable chain keeps its first entry, and the backend derives the gateway's client;
* otherwise the chain is the peer's address, and the backend derives the peer even where the
  gateway took a readable `x-real-ip` naming someone else.

Main statements:
* `firstEntry_append_chain`: extending a chain leaves its first entry alone.
* `clientIp_appendForwardedFor`: once the peer joins the chain, the client is the chain's old
  first entry or the peer.
* `clientIp_downstream`: for a request the gateway passes on, the client the backend derives,
  and when it is the gateway's client.
-/

namespace ApiGateway.Gateway

open ApiGateway.Http ApiGateway.Text

/-! ## First entries -/

/-- A prefix taken while `p` holds stops at the first character where it fails, so what
follows that character does not matter. -/
theorem takeWhile_append_cons_of_false {p : Char → Bool} (l rest : List Char) {c : Char}
    (hc : p c = false) : (l ++ c :: rest).takeWhile p = l.takeWhile p := by
  induction l with
  | nil => simp [hc]
  | cons x xs ih => cases hx : p x <;> simp [hx, ih]

/-- Dropping while `p` holds drops nothing from a list where `p` fails everywhere. -/
theorem dropWhile_of_forall_false {p : Char → Bool} {l : List Char} (h : ∀ c ∈ l, p c = false) :
    l.dropWhile p = l :=
  List.dropWhile_eq_self_iff.2 fun hl => by simp [h _ (List.getElem_mem hl)]

/-- What follows the first comma is no part of the first entry, so a peer appended to a chain
leaves its first entry alone. -/
theorem firstEntry_append_chain (old r : String) :
    firstEntry (old ++ ", " ++ r) = firstEntry old := by
  have hl : (old ++ ", " ++ r).toList = old.toList ++ ',' :: ' ' :: r.toList := by
    simp [String.toList_append]
  simp only [firstEntry, hl,
    takeWhile_append_cons_of_false (p := fun c => decide (c ≠ ',')) (c := ',') _ _ (by decide)]

/-- A text without commas and blanks is its own first entry. -/
theorem firstEntry_of_plain {s : String} (h : ∀ c ∈ s.toList, c ≠ ',' ∧ isBlank c = false) :
    firstEntry s = s := by
  have htake : s.toList.takeWhile (· ≠ ',') = s.toList :=
    List.takeWhile_eq_self_iff.2 fun c hc => by simpa using (h c hc).1
  have hfront : s.toList.dropWhile isBlank = s.toList :=
    dropWhile_of_forall_false fun c hc => (h c hc).2
  have hback : s.toList.reverse.dropWhile isBlank = s.toList.reverse :=
    dropWhile_of_forall_false fun c hc => (h c (List.mem_reverse.1 hc)).2
  simp only [firstEntry, htake, trim, trimList, hfront, hback, List.reverse_reverse,
    String.ofList_toList]

/-- The characters an address may be written with: decimal and hexadecimal digits, `.` and
`:`. -/
theorem writtenChars_eq : IpAddr.writtenChars =
    ['0', '1', '2', '3', '4', '5', '6', '7', '8', '9', 'a', 'b', 'c', 'd', 'e', 'f', '.', ':'] :=
  rfl

/-- The characters an address is written with are visible ASCII, and neither a comma nor
blank: a rendered address is a readable header value and a chain entry of its own. -/
theorem writtenChars_plain : ∀ c ∈ IpAddr.writtenChars,
    (c.toNat < 128 ∧ HeaderValue.isVisibleByte c.val.toUInt8 = true) ∧
      c ≠ ',' ∧ isBlank c = false := by
  -- one character at a time: deciding the whole list at once recurses too deep
  simp only [writtenChars_eq, List.forall_mem_cons, List.not_mem_nil, IsEmpty.forall_iff,
    implies_true, and_true]
  repeat' apply And.intro
  all_goals decide

/-! ## Reading the chain back -/

/-- A header's readable first value is non-empty visible text. -/
theorem firstText?_eq_some {m : HeaderMap} {n : HeaderName} {s : String}
    (h : firstText? m n = some s) :
    s ≠ "" ∧ ∀ c ∈ s.toList, c.toNat < 128 ∧ HeaderValue.isVisibleByte c.val.toUInt8 = true := by
  cases hg : m.get? n with
  | none => simp [firstText?, hg] at h
  | some v =>
    cases ht : v.text? with
    | none => simp [firstText?, hg, ht] at h
    | some s' =>
      by_cases he : s'.isEmpty
      · simp [firstText?, hg, ht, he] at h
      · simp only [firstText?, hg, ht, he, Bool.false_eq_true, if_false, Option.some.injEq] at h
        subst h
        exact ⟨by simpa using he, HeaderValue.text?_chars ht⟩

/-- Visible text is a valid header value, so writing it makes it the header's only value. -/
theorem setIfValid_of_visible (m : HeaderMap) (n : HeaderName) {text : String}
    (hvis : ∀ c ∈ text.toList, c.toNat < 128 ∧ HeaderValue.isVisibleByte c.val.toUInt8 = true) :
    setIfValid m n text = m.insert n (.ofText text) := by
  obtain ⟨v, hv, -⟩ := HeaderValue.ofString?_of_visible hvis
  simp only [setIfValid, hv, HeaderValue.eq_ofText_of_ofString? hv]

/-- Non-empty visible text written to a header is what the header reads as. -/
theorem firstText?_setIfValid (m : HeaderMap) (n : HeaderName) {text : String} (hne : text ≠ "")
    (hvis : ∀ c ∈ text.toList, c.toNat < 128 ∧ HeaderValue.isVisibleByte c.val.toUInt8 = true) :
    firstText? (setIfValid m n text) n = some text := by
  obtain ⟨v, hv, htext⟩ := HeaderValue.ofString?_of_visible hvis
  have hempty : text.isEmpty = false := by simpa using hne
  simp [firstText?, setIfValid, hv, htext, hempty]

/-- The client depends on the `x-forwarded-for` and `x-real-ip` values alone. -/
theorem clientIp_congr {m m' : HeaderMap} (peer : Option SocketAddress)
    (hf : m.getAll forwardedForHeader = m'.getAll forwardedForHeader)
    (hr : m.getAll realIpHeader = m'.getAll realIpHeader) :
    clientIp m peer = clientIp m' peer := by
  simp only [clientIp, firstText?_congr hf, firstText?_congr hr]

/-- The chain the forwarding step writes for a peer: the old first value with the peer after
it, or the peer alone. -/
def extendedChain (m : HeaderMap) (ip : String) : String :=
  match firstText? m forwardedForHeader with
  | some old => old ++ ", " ++ ip
  | none => ip

/-- The forwarding step writes the extended chain into `x-forwarded-for`, when it is a valid
value. -/
theorem appendForwardedFor_eq_extendedChain (m : HeaderMap) (ip : String) :
    appendForwardedFor m ip = setIfValid m forwardedForHeader (extendedChain m ip) := by
  unfold appendForwardedFor setIfValid extendedChain
  rfl

/-- The extended chain is visible text: the old chain was, and so are the separator and an
address. -/
theorem extendedChain_visible (m : HeaderMap) (ip : IpAddr) :
    ∀ c ∈ (extendedChain m ip.render).toList,
      c.toNat < 128 ∧ HeaderValue.isVisibleByte c.val.toUInt8 = true := by
  have hr := IpAddr.render_subset ip
  intro c hc
  unfold extendedChain at hc
  split at hc
  next old hf =>
    simp only [String.toList_append, List.mem_append] at hc
    rcases hc with (hc | hc) | hc
    · exact (firstText?_eq_some hf).2 c hc
    · simp only [show ", ".toList = [',', ' '] by simp, List.mem_cons, List.not_mem_nil,
        or_false] at hc
      rcases hc with rfl | rfl <;> decide
    · exact (writtenChars_plain c (hr hc)).1
  next => exact (writtenChars_plain c (hr hc)).1

/-- Once the peer joins the chain, the chain decides the client: its old first entry when the
first value was readable, and the peer's address otherwise. -/
theorem clientIp_appendForwardedFor (m : HeaderMap) {ip : IpAddr} (hip : ip.Valid)
    (peer : Option SocketAddress) :
    clientIp (appendForwardedFor m ip.render) peer =
      match firstText? m forwardedForHeader with
      | some old => firstEntry old
      | none => ip.render := by
  have hr := IpAddr.render_subset ip
  -- the extended chain is the first value the next hop reads
  have hchain : firstText? (appendForwardedFor m ip.render) forwardedForHeader =
      some (extendedChain m ip.render) := by
    rw [appendForwardedFor_eq_extendedChain]
    refine firstText?_setIfValid _ _ ?_ (extendedChain_visible m ip)
    unfold extendedChain
    cases hf : firstText? m forwardedForHeader with
    | some old => simp [(firstText?_eq_some hf).1]
    | none => exact IpAddr.render_ne_empty hip
  rw [clientIp_forwarded _ _ _ hchain]
  unfold extendedChain
  cases firstText? m forwardedForHeader with
  | some old => exact firstEntry_append_chain old ip.render
  | none => exact firstEntry_of_plain fun c hc => (writtenChars_plain c (hr hc)).2

/-! ## The request passed on -/

/-- The forwarded request carries in `x-forwarded-for` what appending the peer to the incoming
chain leaves there. -/
theorem forwardedValues_forwardedFor (h : HeaderMap) (identity : Option Identity)
    (fresh : String) (a : SocketAddress) :
    forwardedValues h identity fresh (some a) forwardedForHeader =
      (appendForwardedFor h a.ip.render).getAll forwardedForHeader := by
  simp +decide [forwardedValues]

/-- The forwarded request carries the incoming `x-real-ip` values unchanged. -/
theorem forwardedValues_realIp (h : HeaderMap) (identity : Option Identity) (fresh : String)
    (peer : Option SocketAddress) :
    forwardedValues h identity fresh peer realIpHeader = h.getAll realIpHeader := by
  simp +decide [forwardedValues]

section Downstream

variable {g g' : GatewayState} {env : Surroundings} {req : Request} {out : Outbound}
  {a : SocketAddress}

/-- The client a backend derives from a request the gateway passed on: the chain's first entry
when the client's chain was readable, and the peer's address otherwise. -/
theorem clientIp_outbound (hp : req.peer = some a) (ha : a.ip.Valid)
    (h : g.outbound env req = (.ok out, g')) (peer : Option SocketAddress) :
    clientIp out.headers peer =
      match firstText? req.headers forwardedForHeader with
      | some old => firstEntry old
      | none => a.ip.render := by
  obtain ⟨identity, ep, -, -, hprep⟩ :=
    GatewayState.prepareFor_eq_ok (GatewayState.prepareFor_of_outbound h)
  have hvals := getAll_forwarded hprep
  calc clientIp out.headers peer = clientIp (appendForwardedFor req.headers a.ip.render) peer := by
        apply clientIp_congr
        · rw [hvals, hp, forwardedValues_forwardedFor]
        · rw [hvals, forwardedValues_realIp, getAll_appendForwardedFor_of_ne _ _ (by decide)]
    _ = _ := clientIp_appendForwardedFor req.headers ha peer

/-- For a request the gateway passes on, the client a backend derives from the headers it
receives is the gateway's client when the first `x-forwarded-for` value was readable, and the
peer's address otherwise; the two agree exactly when that value was readable or no readable
`x-real-ip` named an address other than the peer's. -/
theorem clientIp_downstream (hp : req.peer = some a) (ha : a.ip.Valid)
    (h : g.outbound env req = (.ok out, g')) (peer : Option SocketAddress) :
    clientIp out.headers peer =
        (if (firstText? req.headers forwardedForHeader).isSome then clientIp req.headers (some a)
         else a.ip.render) ∧
      (clientIp out.headers peer = clientIp req.headers (some a) ↔
        (firstText? req.headers forwardedForHeader).isSome ∨
          ∀ ip, firstText? req.headers realIpHeader = some ip → ip = a.ip.render) := by
  rw [clientIp_outbound hp ha h peer]
  cases hf : firstText? req.headers forwardedForHeader with
  | some old => simp [clientIp_forwarded _ _ _ hf]
  | none =>
    -- the gateway fell back past the chain: to `x-real-ip`, or to the peer as the backend does
    cases hr : firstText? req.headers realIpHeader with
    | none => simp [clientIp, hf, hr]
    | some ip => simp [clientIp, hf, hr, eq_comm]

end Downstream

/-- A request for the exempt path from the peer `10.0.0.1`, whose proxy named the client
`1.2.3.4` in `x-real-ip` only. -/
def realIpRequest : Request :=
  ⟨Method.get, ⟨none, [], [47]⟩, ⟨[(realIpHeader, .ofText "1.2.3.4")]⟩, [],
    some ⟨.v4 10 0 0 1, 40000⟩⟩

/-- Nothing in the exempt gateway refuses the request: it is passed on. -/
theorem realIpRequest_passes : ∃ out g',
    exemptGateway.outbound (Surroundings.unreachable "id" 0) realIpRequest = (.ok out, g') :=
  ⟨_, _, rfl⟩

/-- `clientIp_downstream` at `realIpRequest`: the request is passed on, and the backend's
client is the gateway's when the chain's first value reads, and the peer's otherwise. -/
theorem clientIp_downstream_realIp :
    ∃ out g', exemptGateway.outbound (Surroundings.unreachable "id" 0) realIpRequest =
        (.ok out, g') ∧
      (clientIp out.headers none =
          (if (firstText? realIpRequest.headers forwardedForHeader).isSome then
            clientIp realIpRequest.headers (some ⟨.v4 10 0 0 1, 40000⟩)
           else (IpAddr.v4 10 0 0 1).render) ∧
        (clientIp out.headers none = clientIp realIpRequest.headers (some ⟨.v4 10 0 0 1, 40000⟩) ↔
          (firstText? realIpRequest.headers forwardedForHeader).isSome ∨
            ∀ ip, firstText? realIpRequest.headers realIpHeader = some ip →
              ip = (IpAddr.v4 10 0 0 1).render)) := by
  obtain ⟨out, g', h⟩ := realIpRequest_passes
  exact ⟨out, g', h, clientIp_downstream rfl (by decide) h none⟩

/-- The gateway keys on `1.2.3.4`, and the backend derives `10.0.0.1` from what it receives. -/
theorem clientIp_downstream_differs :
    ∃ out g', exemptGateway.outbound (Surroundings.unreachable "id" 0) realIpRequest =
        (.ok out, g') ∧
      clientIp out.headers none = "10.0.0.1" ∧
      clientIp realIpRequest.headers realIpRequest.peer = "1.2.3.4" := by
  obtain ⟨out, g', h⟩ := realIpRequest_passes
  refine ⟨out, g', h, ?_, ?_⟩
  · -- no chain arrived, so the peer's address is the whole chain passed on
    rw [clientIp_outbound rfl (by decide) h none]
    rfl
  · decide +kernel

end ApiGateway.Gateway
