import Mathlib
import ApiGateway.Access.Policy

/-!
# What one change to the access policy does to the checks

Compare the answer to a request before and after one change to the policy. Most changes
move answers one way only:

* blocking an address never lets a refused request pass, and unblocking one never refuses
  a request that passed;
* setting a restricted prefix never lets a refused request pass, when the prefix was not
  restricted before or its new addresses are among its old ones.

The whitelist changes are the exception, because the whitelist is in force only while it has
members. Removing an address from an enforced whitelist lets a refused request pass only when
that address was the whitelist's one member: the whitelist then stops being enforced, and each
request it refused is decided by the restricted prefixes alone. Adding an address to an
enforced whitelist refuses a request that passed only when the whitelist was empty: it then
comes into force, and every other address that passed is refused as not whitelisted.

Main statement:
* `check_after_change`: the five rules above, for every policy, address and request.

Each rule is a short argument over `check_eq_ok_iff`: a change touches one of the three
stages, and the other two answer as before.
-/

namespace ApiGateway.AccessPolicy

variable (p : AccessPolicy) (x ip path : String)

/-! ## The blacklist -/

/-- Blocking an address never lets a refused request pass. -/
theorem check_block_ne_ok (h : p.check ip path ≠ .ok ()) : (p.block x).check ip path ≠ .ok () := by
  intro hok
  apply h
  rw [check_eq_ok_iff] at hok ⊢
  obtain ⟨hb, hw, hr⟩ := hok
  exact ⟨fun ⟨he, hc⟩ => hb ⟨he, (NameSet.contains_insert _ _ _).2 (.inr hc)⟩, hw, hr⟩

/-- Unblocking an address never refuses a request that passed. -/
theorem check_unblock_eq_ok (h : p.check ip path = .ok ()) : (p.unblock x).check ip path = .ok () := by
  rw [check_eq_ok_iff] at h ⊢
  obtain ⟨hb, hw, hr⟩ := h
  exact ⟨fun ⟨he, hc⟩ => hb ⟨he, ((NameSet.contains_erase _ _ _).1 hc).2⟩, hw, hr⟩

/-! ## Restricted prefixes -/

/-- A restriction that refused a request still refuses it after the prefix `q` is set to
`ips`, when `q` was not restricted before or `ips` are among its old addresses. -/
theorem restrictsPath_restrict (q : String) (ips : List String)
    (hq : p.restricted.find? q = none ∨
      ∃ prev, p.restricted.find? q = some prev ∧ ∀ y ∈ ips, prev.contains y = true)
    (h : p.restrictsPath ip path = true) : (p.restrict q ips).restrictsPath ip path = true := by
  simp only [restrictsPath, List.any_eq_true, Bool.and_eq_true, Bool.not_eq_true'] at h ⊢
  obtain ⟨e, he, hstart, hout⟩ := h
  rcases NameMap.mem_insert_or p.restricted q (NameSet.ofList ips) he with hkept | ⟨hq', hfind⟩
  · exact ⟨e, hkept, hstart, hout⟩
  · -- the refusing entry was the one set again: its new addresses refuse the client too
    refine ⟨(q, NameSet.ofList ips), NameMap.mem_insert_self _ _ _, hq' ▸ hstart, ?_⟩
    rcases hq with hnone | ⟨prev, hprev, hsub⟩
    · rw [hnone] at hfind
      cases hfind
    · have hprev' : prev = e.2 := Option.some.inj (hprev.symm.trans hfind)
      subst hprev'
      cases hc : (NameSet.ofList ips).contains ip with
      | false => rfl
      | true =>
        rw [hsub ip ((NameSet.contains_ofList ips ip).1 hc)] at hout
        cases hout

/-- Setting a restricted prefix that was not restricted, or narrowing its addresses, never
lets a refused request pass. -/
theorem check_restrict_ne_ok (q : String) (ips : List String)
    (hq : p.restricted.find? q = none ∨
      ∃ prev, p.restricted.find? q = some prev ∧ ∀ y ∈ ips, prev.contains y = true)
    (h : p.check ip path ≠ .ok ()) : (p.restrict q ips).check ip path ≠ .ok () := by
  intro hok
  apply h
  rw [check_eq_ok_iff] at hok ⊢
  obtain ⟨hb, hw, hr⟩ := hok
  exact ⟨hb, hw, fun ⟨he, hc⟩ => hr ⟨he, restrictsPath_restrict p ip path q ips hq hc⟩⟩

/-! ## The whitelist -/

/-- Past the blacklist and with the whitelist not refusing, a request is decided by the
restricted prefixes alone. -/
theorem check_of_whitelist_passes
    (hb : (p.enableBlacklist && p.blacklist.contains ip) = false)
    (hw : (p.enableWhitelist && !p.whitelist.isEmpty && !p.whitelist.contains ip) = false) :
    p.check ip path =
      if p.enableRestricted && p.restrictsPath ip path then .error .restrictedRoute else .ok () := by
  simp only [check, hb, hw, Bool.false_eq_true, if_false]

/-- A request the whitelist refused was not refused by the blacklist, which is asked first. -/
theorem blacklist_of_check_eq_notWhitelisted (h : p.check ip path = .error .notWhitelisted) :
    (p.enableBlacklist && p.blacklist.contains ip) = false := by
  cases hb : (p.enableBlacklist && p.blacklist.contains ip) with
  | false => rfl
  | true => simp [check, hb] at h

/-- Removing an address lets a refused request pass only when the whitelist is in force and
that address was its one member. -/
theorem whitelist_of_check_disallow (h : p.check ip path ≠ .ok ())
    (h' : (p.disallow x).check ip path = .ok ()) :
    p.enableWhitelist = true ∧ ∀ y, p.whitelist.contains y = true ↔ y = x := by
  rw [ne_eq, check_eq_ok_iff] at h
  rw [check_eq_ok_iff] at h'
  obtain ⟨hb, hw, hr⟩ := h'
  -- the blacklist and the restrictions answer as before, so the whitelist refused
  obtain ⟨he, hne, hc⟩ : p.enableWhitelist = true ∧ p.whitelist.isEmpty = false ∧
      p.whitelist.contains ip = false :=
    Decidable.byContradiction fun hn => h ⟨hb, hn, hr⟩
  -- it no longer refuses an address it still lacks, so it is empty now
  have hempty : (p.disallow x).whitelist.isEmpty = true := by
    cases hemp : (p.disallow x).whitelist.isEmpty with
    | true => rfl
    | false =>
      refine absurd ⟨he, hemp, ?_⟩ hw
      cases hc' : (p.disallow x).whitelist.contains ip with
      | false => rfl
      | true =>
        rw [show (p.disallow x).whitelist = p.whitelist.erase x from rfl,
          NameSet.contains_erase] at hc'
        rw [hc'.2] at hc
        cases hc
  have honly := (NameSet.isEmpty_erase_iff p.whitelist x).1 hempty
  refine ⟨he, fun y => ⟨honly y, ?_⟩⟩
  rintro rfl
  -- the whitelist had a member, and every member is `y`
  obtain ⟨z, hz⟩ := (NameSet.isEmpty_eq_false_iff _).1 hne
  rwa [← honly z hz]

/-- Removing the one member of the whitelist ends its enforcement, and every request it
refused is then decided by the restricted prefixes alone. -/
theorem check_disallow_last (honly : ∀ y, p.whitelist.contains y = true ↔ y = x) :
    (p.disallow x).whitelist.isEmpty = true ∧
      ∀ ip path, p.check ip path = .error .notWhitelisted →
        (p.disallow x).check ip path =
          if p.enableRestricted && p.restrictsPath ip path then .error .restrictedRoute
          else .ok () := by
  have hempty : (p.disallow x).whitelist.isEmpty = true :=
    (NameSet.isEmpty_erase_iff p.whitelist x).2 fun y hy => (honly y).1 hy
  refine ⟨hempty, fun ip path h => ?_⟩
  apply check_of_whitelist_passes
  · exact blacklist_of_check_eq_notWhitelisted p ip path h
  · simp [hempty]

/-- Adding an address refuses a request that passed only when the whitelist is in force and
was empty. -/
theorem whitelist_of_check_allow (h : p.check ip path = .ok ())
    (h' : (p.allow x).check ip path ≠ .ok ()) :
    p.enableWhitelist = true ∧ p.whitelist.isEmpty = true := by
  rw [check_eq_ok_iff] at h
  rw [ne_eq, check_eq_ok_iff] at h'
  obtain ⟨hb, hw, hr⟩ := h
  -- the blacklist and the restrictions answer as before, so the whitelist refuses now
  obtain ⟨he, -, hc⟩ : p.enableWhitelist = true ∧ (p.allow x).whitelist.isEmpty = false ∧
      (p.allow x).whitelist.contains ip = false :=
    Decidable.byContradiction fun hn => h' ⟨hb, hn, hr⟩
  have hc₀ : p.whitelist.contains ip = false := by
    cases hc' : p.whitelist.contains ip with
    | false => rfl
    | true =>
      have : (p.allow x).whitelist.contains ip = true := (NameSet.contains_insert _ _ _).2 (.inr hc')
      rw [this] at hc
      cases hc
  -- it did not refuse the address it lacked, so it was not in force
  refine ⟨he, ?_⟩
  cases hemp : p.whitelist.isEmpty with
  | true => rfl
  | false => exact absurd ⟨he, hemp, hc₀⟩ hw

/-- Adding an address to an enforced empty whitelist refuses every other address that
passed, as not whitelisted. -/
theorem check_allow_first (he : p.enableWhitelist = true) (hempty : p.whitelist.isEmpty = true)
    (hne : ip ≠ x) (h : p.check ip path = .ok ()) :
    (p.allow x).check ip path = .error .notWhitelisted := by
  have hb : ((p.allow x).enableBlacklist && (p.allow x).blacklist.contains ip) = false := by
    show (p.enableBlacklist && p.blacklist.contains ip) = false
    simpa using ((check_eq_ok_iff p ip path).1 h).1
  -- the whitelist now has `x` alone, so it is in force and lacks `ip`
  have hc : (p.whitelist.insert x).contains ip = false := by
    cases hc : (p.whitelist.insert x).contains ip with
    | false => rfl
    | true =>
      rcases (NameSet.contains_insert _ _ _).1 hc with hx | hin
      · exact absurd hx hne
      · rw [(NameSet.isEmpty_eq_false_iff _).2 ⟨ip, hin⟩] at hempty
        cases hempty
  have hw : ((p.allow x).enableWhitelist && !(p.allow x).whitelist.isEmpty &&
      !(p.allow x).whitelist.contains ip) = true := by
    show (p.enableWhitelist && !(p.whitelist.insert x).isEmpty &&
      !(p.whitelist.insert x).contains ip) = true
    rw [he, NameSet.isEmpty_insert, hc]
    rfl
  simp only [check, hb, hw, Bool.false_eq_true, if_false, if_true]

/-- How one change to the policy can move the answer to a request:
* blocking never lets a refused request pass, and unblocking never refuses one that passed;
* setting a prefix `q` to `ips` never lets a refused request pass, when `q` was not restricted
  or `ips` are among its old addresses;
* removing an address lets a refused request pass only when the whitelist is in force and the
  address was its one member; removing a one member ends the whitelist's enforcement, and every
  request it refused is then decided by the restricted prefixes alone;
* adding an address refuses a request that passed only when the whitelist is in force and
  empty; then every other address that passed is refused as not whitelisted. -/
theorem check_after_change (p : AccessPolicy) (x q : String) (ips : List String) :
    (∀ ip path, p.check ip path ≠ .ok () → (p.block x).check ip path ≠ .ok ()) ∧
    (∀ ip path, p.check ip path = .ok () → (p.unblock x).check ip path = .ok ()) ∧
    ((p.restricted.find? q = none ∨
        ∃ prev, p.restricted.find? q = some prev ∧ ∀ y ∈ ips, prev.contains y = true) →
      ∀ ip path, p.check ip path ≠ .ok () → (p.restrict q ips).check ip path ≠ .ok ()) ∧
    (∀ ip path, p.check ip path ≠ .ok () → (p.disallow x).check ip path = .ok () →
      p.enableWhitelist = true ∧ ∀ y, p.whitelist.contains y = true ↔ y = x) ∧
    ((∀ y, p.whitelist.contains y = true ↔ y = x) →
      (p.disallow x).whitelist.isEmpty = true ∧
        ∀ ip path, p.check ip path = .error .notWhitelisted →
          (p.disallow x).check ip path =
            if p.enableRestricted && p.restrictsPath ip path then .error .restrictedRoute
            else .ok ()) ∧
    (∀ ip path, p.check ip path = .ok () → (p.allow x).check ip path ≠ .ok () →
      p.enableWhitelist = true ∧ p.whitelist.isEmpty = true) ∧
    (p.enableWhitelist = true → p.whitelist.isEmpty = true →
      ∀ ip path, ip ≠ x → p.check ip path = .ok () →
        (p.allow x).check ip path = .error .notWhitelisted) :=
  ⟨check_block_ne_ok p x, check_unblock_eq_ok p x,
    fun hq ip path => check_restrict_ne_ok p ip path q ips hq,
    whitelist_of_check_disallow p x, check_disallow_last p x,
    whitelist_of_check_allow p x,
    fun he hempty ip path => check_allow_first p x ip path he hempty⟩

/-- The one member of an enforced whitelist removed, an address it refused passes. -/
example :
    let p : AccessPolicy :=
      ⟨NameSet.empty, NameSet.ofList ["198.51.100.7"], NameMap.empty, true, true, true⟩
    p.check "8.8.8.8" "/" = .error .notWhitelisted ∧
      (p.disallow "198.51.100.7").check "8.8.8.8" "/" = .ok () := by
  decide +kernel

end ApiGateway.AccessPolicy
