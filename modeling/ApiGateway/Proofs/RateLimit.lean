import Mathlib
import ApiGateway.Traffic.RateLimiter

/-!
# Counting requests per client and second

Over any run of admission requests and clock moves, from any start, the limiter keeps one
slot for each (client, second) key asked for under a positive limit, and the slot holds the
number of requests on its key, capped at the limit. The `k`-th request on a key is admitted
exactly when the limit is positive and `k` is at most the limit. The answer on a key thus
depends on the requests on that key alone: requests on other keys, in whatever order and
wherever the clock moves in between, back to an earlier second included, never change it.

The invariant `Counts` says what the slots hold after a list of requests; `allow_counts` is
its step for one request and `Counts.after` its run.
-/

namespace ApiGateway

namespace RateSlot

/-- The key a slot counts for: its client and its second. -/
def key (s : RateSlot) : String × Nat := (s.client, s.second)

/-- The slot with one more request when it counts for `k`, and unchanged otherwise. -/
def bumpAt (k : String × Nat) (s : RateSlot) : RateSlot :=
  if s.key = k then { s with count := s.count + 1 } else s

/-- Counting a request keeps a slot's key. -/
@[simp] theorem key_bumpAt (k : String × Nat) (s : RateSlot) : (s.bumpAt k).key = s.key := by
  unfold bumpAt
  split <;> rfl

/-- Counting a request keeps the keys of all slots. -/
theorem map_key_bumpAt (k : String × Nat) (slots : List RateSlot) :
    (slots.map (bumpAt k)).map key = slots.map key := by
  simp [List.map_map, Function.comp_def]

end RateSlot

namespace RateLimiter

/-- The slots after the requests `calls` under limit `L`: one slot per key asked for under a
positive limit, each holding its key's number of requests capped at the limit. -/
structure Counts (L : Nat) (calls : List (String × Nat)) (slots : List RateSlot) : Prop where
  nodup : (slots.map RateSlot.key).Nodup
  mem_iff : ∀ k, k ∈ slots.map RateSlot.key ↔ 0 < L ∧ k ∈ calls
  count_eq : ∀ s ∈ slots, s.count = min L (calls.count s.key)

/-- No requests leave no slots. -/
theorem counts_nil (L : Nat) : Counts L [] [] :=
  ⟨List.nodup_nil, fun k => by simp, fun s hs => by simp at hs⟩

/-- The slot found for a client and a second is one of the slots and counts for them. -/
theorem key_eq_of_find? {slots : List RateSlot} {client : String} {second : Nat}
    {s : RateSlot} (h : slots.find? (fun s => s.client == client && s.second == second) = some s) :
    s ∈ slots ∧ s.key = (client, second) := by
  refine ⟨List.mem_of_find?_eq_some h, ?_⟩
  have hp := List.find?_some h
  simp only [Bool.and_eq_true, beq_iff_eq] at hp
  simp [RateSlot.key, hp.1, hp.2]

/-- When no slot is found for a client and a second, no slot counts for them. -/
theorem key_not_mem_of_find? {slots : List RateSlot} {client : String} {second : Nat}
    (h : slots.find? (fun s => s.client == client && s.second == second) = none) :
    (client, second) ∉ slots.map RateSlot.key := by
  rw [List.find?_eq_none] at h
  intro hm
  obtain ⟨s, hs, hk⟩ := List.mem_map.1 hm
  simp only [RateSlot.key, Prod.mk.injEq] at hk
  exact h s hs (by simp [hk.1, hk.2])

/-- With one slot per key, bumping a key adds one to that key's slot and leaves the others. -/
theorem bump_eq_map {client : String} {second : Nat} {slots : List RateSlot}
    (h : (slots.map RateSlot.key).Nodup) :
    bump client second slots = slots.map (RateSlot.bumpAt (client, second)) := by
  induction slots with
  | nil => rfl
  | cons s rest ih =>
    simp only [List.map_cons, List.nodup_cons, List.mem_map] at h
    by_cases hs : s.key = (client, second)
    · have hp : (s.client == client && s.second == second) = true := by
        simp only [RateSlot.key, Prod.mk.injEq] at hs
        simp [hs.1, hs.2]
      -- no later slot has the key, so the map changes nothing after the first
      have hrest : rest.map (RateSlot.bumpAt (client, second)) = rest := by
        refine (List.map_congr_left fun s' hs' => ?_).trans (List.map_id rest)
        have hne : s'.key ≠ (client, second) := fun he => h.1 ⟨s', hs', he.trans hs.symm⟩
        simp [RateSlot.bumpAt, hne]
      simp [bump, hp, RateSlot.bumpAt, hs, hrest]
    · have hp : (s.client == client && s.second == second) = false := by
        simp only [RateSlot.key, Prod.mk.injEq, not_and] at hs
        simpa using hs
      simp [bump, hp, RateSlot.bumpAt, hs, ih h.2]

/-- Asking for a key again adds no new key, as long as it was asked for whenever the limit
is positive. -/
theorem mem_iff_append {keys calls : List (String × Nat)} {L : Nat} {k : String × Nat}
    (h : ∀ k', k' ∈ keys ↔ 0 < L ∧ k' ∈ calls) (hk : 0 < L → k ∈ calls) (k' : String × Nat) :
    k' ∈ keys ↔ 0 < L ∧ k' ∈ calls ++ [k] := by
  rw [h k']
  constructor
  · rintro ⟨hpos, hk'⟩
    exact ⟨hpos, List.mem_append_left _ hk'⟩
  · rintro ⟨hpos, hk'⟩
    rcases List.mem_append.1 hk' with hk' | hk'
    · exact ⟨hpos, hk'⟩
    · exact ⟨hpos, List.mem_singleton.1 hk' ▸ hk hpos⟩

namespace Counts

variable {L : Nat} {calls : List (String × Nat)} {slots : List RateSlot} {k : String × Nat}

/-- A refusal leaves the slots as they are: the key's count is already at the limit. -/
theorem refuse (h : Counts L calls slots) (hge : L ≤ calls.count k) :
    Counts L (calls ++ [k]) slots := by
  -- under a positive limit the refused key was asked for before
  have hin : 0 < L → k ∈ calls := fun hpos => List.count_pos_iff.1 (by omega)
  refine ⟨h.nodup, mem_iff_append h.mem_iff hin, fun s hs => ?_⟩
  rw [h.count_eq s hs, List.count_append, List.count_singleton]
  by_cases hk : k = s.key
  · subst hk
    simp only [beq_self_eq_true, if_true]
    omega
  · simp [hk]

/-- An admission on a key asked for before adds one to that key's slot. -/
theorem bump (h : Counts L calls slots) (hin : k ∈ calls) (hlt : calls.count k < L) :
    Counts L (calls ++ [k]) (slots.map (RateSlot.bumpAt k)) := by
  refine ⟨?_, fun k' => ?_, fun s' hs' => ?_⟩
  · rw [RateSlot.map_key_bumpAt]
    exact h.nodup
  · rw [RateSlot.map_key_bumpAt]
    exact mem_iff_append h.mem_iff (fun _ => hin) k'
  · obtain ⟨s, hs, rfl⟩ := List.mem_map.1 hs'
    have hc := h.count_eq s hs
    rw [RateSlot.key_bumpAt, List.count_append, List.count_singleton]
    by_cases hk : s.key = k
    · -- the key's slot: below the limit the count was exact, and it grows by one
      subst hk
      simp only [RateSlot.bumpAt, if_true, beq_self_eq_true]
      omega
    · have hk' : (k == s.key) = false := beq_eq_false_iff_ne.2 (Ne.symm hk)
      simp only [RateSlot.bumpAt, hk, if_false, hk', Bool.false_eq_true, Nat.add_zero]
      exact hc

/-- An admission on a key never asked for before opens its slot with a count of one. -/
theorem open_slot (h : Counts L calls slots) (hpos : 0 < L) (hnew : k ∉ calls) :
    Counts L (calls ++ [k]) (slots ++ [⟨k.1, k.2, 1⟩]) := by
  have hkey : (⟨k.1, k.2, 1⟩ : RateSlot).key = k := rfl
  refine ⟨?_, fun k' => ?_, fun s hs => ?_⟩
  · rw [List.map_append, List.nodup_append]
    refine ⟨h.nodup, List.nodup_singleton _, ?_⟩
    intro a ha b hb
    rw [List.map_singleton, hkey, List.mem_singleton] at hb
    subst hb
    rintro rfl
    exact hnew ((h.mem_iff a).1 ha).2
  · rw [List.map_append, List.mem_append, h.mem_iff k', List.map_singleton, hkey,
      List.mem_singleton, List.mem_append, List.mem_singleton]
    constructor
    · rintro (⟨hp, hk'⟩ | rfl)
      · exact ⟨hp, .inl hk'⟩
      · exact ⟨hpos, .inr rfl⟩
    · rintro ⟨hp, hk' | rfl⟩
      · exact .inl ⟨hp, hk'⟩
      · exact .inr rfl
  · rw [List.count_append, List.count_singleton]
    rcases List.mem_append.1 hs with hs | hs
    · -- an old slot counts a key other than the new one
      have hne : (k == s.key) = false := by
        have hmem : s.key ∈ slots.map RateSlot.key := List.mem_map_of_mem hs
        have hin := ((h.mem_iff s.key).1 hmem).2
        simp only [beq_eq_false_iff_ne]
        rintro rfl
        exact hnew hin
      simp only [hne, Bool.false_eq_true, if_false, Nat.add_zero]
      exact h.count_eq s hs
    · rw [List.mem_singleton.1 hs, hkey, List.count_eq_zero.2 hnew]
      simp only [beq_self_eq_true, if_true]
      omega

end Counts

variable {calls : List (String × Nat)}

/-- One request: it is admitted exactly when its key has had fewer requests than the limit,
and the slots then count it. -/
theorem allow_counts {rl : RateLimiter} (h : Counts rl.limit calls rl.slots) (client : String)
    (second : Nat) :
    (rl.allow client second).1 = decide (calls.count (client, second) < rl.limit) ∧
      (rl.allow client second).2.limit = rl.limit ∧
      Counts rl.limit (calls ++ [(client, second)]) (rl.allow client second).2.slots := by
  cases hf : rl.slots.find? (fun s => s.client == client && s.second == second) with
  | some s =>
    obtain ⟨hs, hk⟩ := key_eq_of_find? hf
    have hc := h.count_eq s hs
    rw [hk] at hc
    have hin : (client, second) ∈ calls := by
      rw [← hk]
      exact ((h.mem_iff _).1 (List.mem_map_of_mem hs)).2
    by_cases hlt : s.count < rl.limit
    · have hcl : calls.count (client, second) < rl.limit := by omega
      simp only [allow, hf, hlt, if_true]
      refine ⟨by simp [hcl], trivial, ?_⟩
      rw [bump_eq_map h.nodup]
      exact h.bump hin hcl
    · have hge : rl.limit ≤ calls.count (client, second) := by omega
      simp only [allow, hf, hlt, if_false]
      exact ⟨by simp [hge], trivial, h.refuse hge⟩
  | none =>
    have hnot := key_not_mem_of_find? hf
    by_cases hz : rl.limit = 0
    · simp only [allow, hf, hz, beq_self_eq_true, if_true]
      exact ⟨by simp, trivial, hz ▸ h.refuse (by omega)⟩
    · -- a key without a slot under a positive limit was never asked for
      have hnew : (client, second) ∉ calls := fun hin =>
        hnot ((h.mem_iff _).2 ⟨Nat.pos_of_ne_zero hz, hin⟩)
      have hz' : (rl.limit == 0) = false := beq_eq_false_iff_ne.2 hz
      simp only [allow, hf, hz', Bool.false_eq_true, if_false]
      refine ⟨by simp [List.count_eq_zero.2 hnew, Nat.pos_of_ne_zero hz], trivial, ?_⟩
      exact h.open_slot (Nat.pos_of_ne_zero hz) hnew

/-- A key's count is its number of requests, capped at the limit. -/
theorem Counts.count {rl : RateLimiter} (h : Counts rl.limit calls rl.slots) (client : String)
    (second : Nat) : rl.count client second = min rl.limit (calls.count (client, second)) := by
  unfold RateLimiter.count
  cases hf : rl.slots.find? (fun s => s.client == client && s.second == second) with
  | some s =>
    obtain ⟨hs, hk⟩ := key_eq_of_find? hf
    dsimp only
    rw [h.count_eq s hs, hk]
  | none =>
    have hnot := key_not_mem_of_find? hf
    by_cases hz : rl.limit = 0
    · simp [hz]
    · have hnew : (client, second) ∉ calls := fun hin =>
        hnot ((h.mem_iff _).2 ⟨Nat.pos_of_ne_zero hz, hin⟩)
      simp [List.count_eq_zero.2 hnew]

/-- No slot counts past the limit. -/
theorem Counts.count_le {L : Nat} {slots : List RateSlot} (h : Counts L calls slots) :
    ∀ s ∈ slots, s.count ≤ L := fun s hs => (h.count_eq s hs) ▸ Nat.min_le_left _ _

/-- One slot per key asked for under a positive limit, and none under a zero limit. -/
theorem Counts.length {L : Nat} {slots : List RateSlot} (h : Counts L calls slots) :
    slots.length = if L = 0 then 0 else calls.toFinset.card := by
  split
  · rename_i hz
    have hnil : slots.map RateSlot.key = [] := List.eq_nil_iff_forall_not_mem.2 fun k hk => by
      have := ((h.mem_iff k).1 hk).1
      omega
    rw [← List.length_map, hnil, List.length_nil]
  · rename_i hz
    calc slots.length = (slots.map RateSlot.key).length := (List.length_map _).symm
      _ = (slots.map RateSlot.key).toFinset.card := (List.toFinset_card_of_nodup h.nodup).symm
      _ = calls.toFinset.card := by
        congr 1
        ext k
        simp [h.mem_iff k, Nat.pos_of_ne_zero hz]

end RateLimiter

namespace Meter

/-- The keys of the admission requests of a run from clock `c`, in order: each request's
client with the second the clock shows at that moment. -/
def calls (c : Clock) : List Op → List (String × Nat)
  | [] => []
  | .allow client :: ops => (client, c.now) :: calls c ops
  | .advance secs :: ops => calls (c.advance secs) ops
  | .set secs :: ops => calls (c.set secs) ops

/-- Along a run the limit stays, and the slots count the requests made so far. -/
theorem counts_after (m : Meter) (done : List (String × Nat))
    (h : RateLimiter.Counts m.limiter.limit done m.limiter.slots) (ops : List Op) :
    (m.after ops).limiter.limit = m.limiter.limit ∧
      RateLimiter.Counts m.limiter.limit (done ++ calls m.clock ops) (m.after ops).limiter.slots := by
  induction ops generalizing m done with
  | nil => exact ⟨rfl, by simpa [calls, after] using h⟩
  | cons op ops ih =>
    cases op with
    | allow client =>
      obtain ⟨-, hlim, hc⟩ := RateLimiter.allow_counts h client m.clock.now
      have hrun := ih (m.perform (.allow client)).2 (done ++ [(client, m.clock.now)])
        (by simpa [perform, hlim] using hc)
      simp only [perform, hlim] at hrun
      simpa [after, calls, perform] using hrun
    | advance secs =>
      have hrun := ih (m.perform (.advance secs)).2 done h
      simpa [after, calls, perform] using hrun
    | set secs =>
      have hrun := ih (m.perform (.set secs)).2 done h
      simpa [after, calls, perform] using hrun

/-- Over any run of requests and clock moves from any start, the next request on a key is
admitted exactly when the limit is positive and it is at most the limit-th request on that
key; each key's count, and each stored slot's, is its number of requests capped at the limit,
so no slot holds more than the limit; and the limiter keeps one slot per key asked for, none
under a zero limit. -/
theorem allow_kth_request (limit start : Nat) (ops : List Op) (client : String) :
    (((Meter.start limit start).after ops).perform (.allow client)).1 =
        some (decide (0 < limit ∧ (calls (Clock.ofSeconds start) ops).count
          (client, ((Meter.start limit start).after ops).clock.now) + 1 ≤ limit)) ∧
      (∀ c s, ((Meter.start limit start).after ops).limiter.count c s =
        min limit ((calls (Clock.ofSeconds start) ops).count (c, s))) ∧
      (∀ slot ∈ ((Meter.start limit start).after ops).limiter.slots,
        slot.count = min limit ((calls (Clock.ofSeconds start) ops).count (slot.client, slot.second)) ∧
          slot.count ≤ limit) ∧
      ((Meter.start limit start).after ops).limiter.tracked =
        if limit = 0 then 0 else (calls (Clock.ofSeconds start) ops).toFinset.card := by
  obtain ⟨hlim, hc⟩ := counts_after (Meter.start limit start) [] (RateLimiter.counts_nil limit) ops
  rw [List.nil_append] at hc
  have hc' : RateLimiter.Counts ((Meter.start limit start).after ops).limiter.limit
      (calls (Clock.ofSeconds start) ops) ((Meter.start limit start).after ops).limiter.slots := by
    rw [hlim]
    exact hc
  refine ⟨?_, fun c s => ?_, fun slot hs => ⟨hc.count_eq slot hs, hc.count_le slot hs⟩, hc.length⟩
  · -- the `k`-th request is admitted when `k - 1` requests came before it, below the limit
    have hans := (RateLimiter.allow_counts hc' client
      ((Meter.start limit start).after ops).clock.now).1
    rw [hlim] at hans
    simp only [perform, hans, Option.some.injEq, decide_eq_decide]
    change _ < limit ↔ _
    omega
  · rw [hc'.count c s, hlim]
    rfl

end Meter

end ApiGateway
