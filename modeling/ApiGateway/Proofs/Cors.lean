import Mathlib
import ApiGateway.Gateway.Dispatch

/-!
# Every answer carries the cross-origin headers

The cross-origin layer stands outside everything else: whatever the request and however it
ends (a relayed backend reply with cross-origin headers of its own, any gateway error, or the
internal error a caught failure becomes), the answer leaves with exactly one value for each
of the four cross-origin headers, the fixed one. Setting a header replaces all its earlier
values, so a reply's own values never survive. A preflight request is answered 200 at once and
touches nothing: no check runs, no state changes and no backend is asked.
-/

namespace ApiGateway.Gateway

open ApiGateway.Http

/-- Setting fields of other names leaves a name's values as they were. -/
theorem getAll_foldl_insert_of_not_mem (l : List (HeaderName × HeaderValue)) (m : HeaderMap)
    {n : HeaderName} (hn : n ∉ l.map Prod.fst) :
    (l.foldl (fun acc h => acc.insert h.1 h.2) m).getAll n = m.getAll n := by
  induction l generalizing m with
  | nil => rfl
  | cons p rest ih =>
    simp only [List.map_cons, List.mem_cons, not_or] at hn
    rw [List.foldl_cons, ih _ hn.2, HeaderMap.getAll_insert_of_ne _ _ hn.1]

/-- Setting fields of distinct names, one after another, leaves each name with exactly its
value, whatever the map held before. -/
theorem getAll_foldl_insert (l : List (HeaderName × HeaderValue)) (m : HeaderMap)
    (hl : (l.map Prod.fst).Nodup) {n : HeaderName} {v : HeaderValue} (h : (n, v) ∈ l) :
    (l.foldl (fun acc h => acc.insert h.1 h.2) m).getAll n = [v] := by
  induction l generalizing m with
  | nil => simp at h
  | cons p rest ih =>
    simp only [List.map_cons, List.nodup_cons] at hl
    rw [List.foldl_cons]
    rcases List.mem_cons.1 h with rfl | hr
    · rw [getAll_foldl_insert_of_not_mem rest _ hl.1, HeaderMap.getAll_insert]
    · exact ih _ hl.2 hr

/-- The cross-origin headers have distinct names. -/
theorem corsHeaders_nodup : (corsHeaders.map Prod.fst).Nodup := by
  decide

/-- After the cross-origin headers are applied, each has exactly its fixed value. -/
theorem getAll_applyCors (m : HeaderMap) {n : HeaderName} {v : HeaderValue}
    (h : (n, v) ∈ corsHeaders) : (applyCors m).getAll n = [v] :=
  getAll_foldl_insert corsHeaders m corsHeaders_nodup h

/-- The answer to a request is always a response with the cross-origin headers applied. -/
theorem serve_headers (g : GatewayState) (env : Surroundings) (req : Request) :
    ∃ m, (g.serve env req).1.headers = applyCors m := by
  unfold GatewayState.serve
  split
  · exact ⟨HeaderMap.empty, rfl⟩
  · exact ⟨_, rfl⟩

/-- Every answer carries exactly one value for each of the four cross-origin headers, the
fixed one; so does every response the inner layers can produce once the cross-origin layer
has passed over it, a backend's reply with cross-origin values of its own and the internal
error of a caught failure among them. A preflight request, whatever its address, path,
headers or token, is answered 200 with those headers alone and an empty body, and leaves the
state as it was. -/
theorem cors_on_every_answer :
    (∀ (g : GatewayState) (env : Surroundings) (req : Request), ∀ f ∈ corsHeaders,
        (g.serve env req).1.headers.getAll f.1 = [f.2]) ∧
      (∀ r : Response, ∀ f ∈ corsHeaders, (Response.withCors r).headers.getAll f.1 = [f.2]) ∧
      (∀ (g : GatewayState) (env : Surroundings) (req : Request),
        g.serve env { req with method := Method.options } = (preflightResponse, g) ∧
          preflightResponse.status = 200 ∧ preflightResponse.headers.fields = corsHeaders ∧
          preflightResponse.body = []) := by
  refine ⟨fun g env req f hf => ?_, fun r f hf => getAll_applyCors r.headers hf,
    fun g env req => ⟨GatewayState.serve_preflight g env _ rfl, rfl, rfl, rfl⟩⟩
  obtain ⟨m, hm⟩ := serve_headers g env req
  rw [hm]
  exact getAll_applyCors m hf

end ApiGateway.Gateway
