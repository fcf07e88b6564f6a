import ApiGateway.Data.NameSet
import ApiGateway.Data.NameMap
import ApiGateway.Config.Basic

/-!
# Access policy

The access policy decides, from a client address and a request path, whether a request
may go on. Three checks run in a fixed order and the first that refuses decides:

1. the blacklist, when enabled, refuses a listed address;
2. the whitelist, when enabled and non-empty, refuses an unlisted address;
3. the restricted prefixes, when enabled, refuse a path that starts with a restricted
   prefix unless the address is among that prefix's allowed addresses.

Addresses are compared as exact texts. The sets can be changed while the gateway runs.

Main statements:
* `check_eq_ok_iff`: a request passes exactly when none of the three refusals applies.
* `check_block`: after blocking an address, an enabled blacklist refuses it on any path.
-/

namespace ApiGateway

/-- Why the access policy refused a request. -/
inductive Denial where
  /-- The client address is on the blacklist. -/
  | blacklisted
  /-- The whitelist is in force and the client address is not on it. -/
  | notWhitelisted
  /-- The path starts with a restricted prefix that does not allow the client address. -/
  | restrictedRoute
  deriving DecidableEq, Repr

namespace Denial

/-- The reason in words. -/
def reason : Denial → String
  | .blacklisted => "blacklisted"
  | .notWhitelisted => "not whitelisted"
  | .restrictedRoute => "restricted route"

/-- The reason as a code for programs. -/
def code : Denial → String
  | .blacklisted => "BLACKLISTED"
  | .notWhitelisted => "NOT_WHITELISTED"
  | .restrictedRoute => "RESTRICTED_ROUTE"

end Denial

/-- The access policy: three address sets and the switches that enable them. -/
structure AccessPolicy where
  /-- Addresses refused everywhere. -/
  blacklist : NameSet
  /-- Addresses admitted when the whitelist is in force. -/
  whitelist : NameSet
  /-- Path prefixes with the addresses allowed to reach them. -/
  restricted : NameMap NameSet
  /-- Whether the blacklist is checked. -/
  enableBlacklist : Bool
  /-- Whether the whitelist is checked. -/
  enableWhitelist : Bool
  /-- Whether the restricted prefixes are checked. -/
  enableRestricted : Bool
  deriving Repr

namespace AccessPolicy

/-- The policy of the access settings: each address list becomes a set. -/
def ofSettings (s : Config.AccessSettings) : AccessPolicy :=
  { blacklist := NameSet.ofList s.blacklist
    whitelist := NameSet.ofList s.whitelist
    restricted := s.restricted.mapValues NameSet.ofList
    enableBlacklist := s.enableBlacklist
    enableWhitelist := s.enableWhitelist
    enableRestricted := s.enableRestricted }

/-- Whether some restricted prefix starts the path without allowing the address. -/
def restrictsPath (p : AccessPolicy) (ip path : String) : Bool :=
  p.restricted.toList.any fun e => path.startsWith e.1 && !e.2.contains ip

/-- Decides a request from its client address and path. -/
def check (p : AccessPolicy) (ip path : String) : Except Denial Unit :=
  if p.enableBlacklist && p.blacklist.contains ip then .error .blacklisted
  else if p.enableWhitelist && !p.whitelist.isEmpty && !p.whitelist.contains ip then
    .error .notWhitelisted
  else if p.enableRestricted && p.restrictsPath ip path then .error .restrictedRoute
  else .ok ()

/-- Adds an address to the blacklist. -/
def block (p : AccessPolicy) (ip : String) : AccessPolicy :=
  { p with blacklist := p.blacklist.insert ip }

/-- Removes an address from the blacklist. -/
def unblock (p : AccessPolicy) (ip : String) : AccessPolicy :=
  { p with blacklist := p.blacklist.erase ip }

/-- Adds an address to the whitelist. -/
def allow (p : AccessPolicy) (ip : String) : AccessPolicy :=
  { p with whitelist := p.whitelist.insert ip }

/-- Removes an address from the whitelist. -/
def disallow (p : AccessPolicy) (ip : String) : AccessPolicy :=
  { p with whitelist := p.whitelist.erase ip }

/-- Replaces the allowed addresses of a restricted prefix. -/
def restrict (p : AccessPolicy) (pathPrefix : String) (ips : List String) : AccessPolicy :=
  { p with restricted := p.restricted.insert pathPrefix (NameSet.ofList ips) }

/-- A change made to the policy while the gateway runs. -/
inductive Update where
  /-- Refuse an address everywhere. -/
  | block (ip : String)
  /-- Take an address off the blacklist. -/
  | unblock (ip : String)
  /-- Admit an address under the whitelist. -/
  | allow (ip : String)
  /-- Take an address off the whitelist. -/
  | disallow (ip : String)
  /-- Replace the allowed addresses of a restricted prefix. -/
  | restrict (pathPrefix : String) (ips : List String)
  deriving Repr

/-- Carries out one change. -/
def update (p : AccessPolicy) : Update → AccessPolicy
  | .block ip => p.block ip
  | .unblock ip => p.unblock ip
  | .allow ip => p.allow ip
  | .disallow ip => p.disallow ip
  | .restrict q ips => p.restrict q ips

/-- Carries out changes in order. -/
def updateAll (p : AccessPolicy) (us : List Update) : AccessPolicy := us.foldl update p

/-- No change touches the three switches. -/
theorem updateAll_switches (p : AccessPolicy) (us : List Update) :
    (p.updateAll us).enableBlacklist = p.enableBlacklist ∧
      (p.updateAll us).enableWhitelist = p.enableWhitelist ∧
      (p.updateAll us).enableRestricted = p.enableRestricted := by
  induction us generalizing p with
  | nil => exact ⟨rfl, rfl, rfl⟩
  | cons u rest ih =>
    obtain ⟨hb, hw, hr⟩ := ih (p.update u)
    refine ⟨hb.trans ?_, hw.trans ?_, hr.trans ?_⟩ <;> cases u <;> rfl

/-- A request passes exactly when no enabled check refuses it. -/
theorem check_eq_ok_iff (p : AccessPolicy) (ip path : String) :
    p.check ip path = .ok () ↔
      ¬(p.enableBlacklist = true ∧ p.blacklist.contains ip = true) ∧
      ¬(p.enableWhitelist = true ∧ p.whitelist.isEmpty = false ∧
          p.whitelist.contains ip = false) ∧
      ¬(p.enableRestricted = true ∧ p.restrictsPath ip path = true) := by
  unfold check
  by_cases h1 : (p.enableBlacklist && p.blacklist.contains ip) = true
  · simp only [if_pos h1, reduceCtorEq, false_iff]
    simp only [Bool.and_eq_true] at h1
    exact fun h => h.1 h1
  · simp only [if_neg h1]
    by_cases h2 : (p.enableWhitelist && !p.whitelist.isEmpty && !p.whitelist.contains ip) = true
    · simp only [if_pos h2, reduceCtorEq, false_iff]
      simp only [Bool.and_eq_true, Bool.not_eq_true'] at h2
      exact fun h => h.2.1 ⟨h2.1.1, h2.1.2, h2.2⟩
    · simp only [if_neg h2]
      by_cases h3 : (p.enableRestricted && p.restrictsPath ip path) = true
      · simp only [if_pos h3, reduceCtorEq, false_iff]
        simp only [Bool.and_eq_true] at h3
        exact fun h => h.2.2 h3
      · simp only [if_neg h3, true_iff]
        simp only [Bool.and_eq_true, Bool.not_eq_true'] at h1 h2 h3
        exact ⟨h1, fun h => h2 ⟨⟨h.1, h.2.1⟩, h.2.2⟩, h3⟩

/-- After blocking an address, an enabled blacklist refuses it on every path. -/
theorem check_block (p : AccessPolicy) (ip path : String) (h : p.enableBlacklist = true) :
    (p.block ip).check ip path = .error .blacklisted := by
  have hc : (p.block ip).blacklist.contains ip = true := by
    simp [block]
  simp [check, block] at hc ⊢
  simp [h]

end AccessPolicy

end ApiGateway
