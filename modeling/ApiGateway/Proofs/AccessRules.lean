import Mathlib
import ApiGateway.Access.Policy
import ApiGateway.Proofs.PrefixRouting

/-!
# The access policy read as sets

Read as sets, the access policy is a small machine. The blacklist and the whitelist are
finite sets of addresses that change by adding or removing one address. The restricted
prefixes form a finite map from a prefix to the set of addresses allowed under it, and
restricting a prefix again replaces its set. A check asks three questions in order, and the
first that refuses decides: whether an enabled blacklist holds the address, whether an enabled
whitelist with members lacks it, and whether an enabled restriction keeps it out. The last
refuses when some restricted prefix whose bytes begin the path's does not allow the address:
the address must lie in the allowed set of every restricted prefix of the path, so
overlapping prefixes all apply, where routing lets the longest prefix alone decide.

`AccessRules` is that machine, and `AccessPolicy.Shows` says when a policy shows given rules:
its lists hold the rules' sets, ascending and each member once, its restricted table is a map
with the rules' prefixes and allowed sets, and its switches are the rules'.

Main statement:
* `updateAll_shows`: start from any settings and make any run of changes. The policy then
  shows the rules that the same changes make of the settings read as sets. So every check
  answers as those rules decide, and the switches are still those of the settings.

## Implementation notes

The order of the lists matters at one place only: setting a restricted prefix again replaces
its one entry because the prefixes of a table ascend (`NameMap.mem_insert_iff`).
-/

namespace ApiGateway

open Registry

/-- The access rules read as sets: the blacklist and the whitelist, the restricted prefixes
with the addresses each allows, and the switches of the three checks. -/
structure AccessRules where
  blacklist : Finset String
  whitelist : Finset String
  prefixes : Finset String
  allowed : String → Finset String
  enableBlacklist : Bool
  enableWhitelist : Bool
  enableRestricted : Bool

namespace AccessRules

/-- An address passes the restricted prefixes on a path when every restricted prefix whose
bytes begin the path's allows it: it lies in the intersection of their allowed sets, which
holds every address when no restricted prefix begins the path. -/
def Admits (r : AccessRules) (ip path : String) : Prop :=
  ∀ q ∈ r.prefixes, BytePrefix q path → ip ∈ r.allowed q

/-- Whether the restricted prefixes admit an address is decided prefix by prefix. -/
instance (r : AccessRules) (ip path : String) : Decidable (r.Admits ip path) :=
  inferInstanceAs (Decidable (∀ q ∈ r.prefixes, BytePrefix q path → ip ∈ r.allowed q))

/-- The rules' answer to a request: the first of the three checks that refuses it, or a
pass. -/
def verdict (r : AccessRules) (ip path : String) : Except Denial Unit :=
  if r.enableBlacklist = true ∧ ip ∈ r.blacklist then .error .blacklisted
  else if r.enableWhitelist = true ∧ r.whitelist.Nonempty ∧ ip ∉ r.whitelist then
    .error .notWhitelisted
  else if r.enableRestricted = true ∧ ¬ r.Admits ip path then .error .restrictedRoute
  else .ok ()

/-- A change read on sets: an address joins or leaves a set, and a restricted prefix gets the
set of the given addresses in place of any set it had. -/
def update (r : AccessRules) : AccessPolicy.Update → AccessRules
  | .block ip => { r with blacklist := insert ip r.blacklist }
  | .unblock ip => { r with blacklist := r.blacklist.erase ip }
  | .allow ip => { r with whitelist := insert ip r.whitelist }
  | .disallow ip => { r with whitelist := r.whitelist.erase ip }
  | .restrict q ips =>
    { r with prefixes := insert q r.prefixes
             allowed := Function.update r.allowed q ips.toFinset }

/-- Carries out changes in order. -/
def updateAll (r : AccessRules) (us : List AccessPolicy.Update) : AccessRules :=
  us.foldl update r

/-- The rules of the access settings: each address list read as a set, and each prefix of the
restricted table with its address list read as a set. -/
def ofSettings (s : Config.AccessSettings) : AccessRules where
  blacklist := s.blacklist.toFinset
  whitelist := s.whitelist.toFinset
  prefixes := s.restricted.keys.toFinset
  allowed q := ((s.restricted.find? q).getD []).toFinset
  enableBlacklist := s.enableBlacklist
  enableWhitelist := s.enableWhitelist
  enableRestricted := s.enableRestricted

/-- Nested restricted prefixes both apply: `/a` allows two addresses and `/a/b` one of them,
so the other passes under `/a` and is refused under `/a/b`. -/
example :
    let r : AccessRules := ⟨∅, ∅, {"/a", "/a/b"},
      fun q => if q = "/a" then {"x", "y"} else {"y"}, true, false, true⟩
    r.verdict "x" "/a/c" = .ok () ∧ r.verdict "x" "/a/b/c" = .error .restrictedRoute ∧
      r.verdict "y" "/a/b/c" = .ok () := by
  decide +kernel

end AccessRules

/-! ## Lists that show sets -/

namespace NameSet

/-- A set of names lists a finite set when it holds exactly its members; as every set of
names, it holds them ascending and each once. -/
def Lists (s : NameSet) (A : Finset String) : Prop := s.toList.toFinset = A

variable {s : NameSet} {A : Finset String}

/-- A set that lists a finite set holds exactly its members. -/
theorem Lists.contains_iff (h : s.Lists A) (x : String) : s.contains x = true ↔ x ∈ A := by
  rw [← h, List.mem_toFinset, mem_toList]

/-- A set that lists a finite set is non-empty exactly when the finite set is. -/
theorem Lists.isEmpty_eq_false_iff (h : s.Lists A) : s.isEmpty = false ↔ A.Nonempty := by
  rw [NameSet.isEmpty_eq_false_iff]
  exact ⟨fun ⟨x, hx⟩ => ⟨x, (h.contains_iff x).1 hx⟩,
    fun ⟨x, hx⟩ => ⟨x, (h.contains_iff x).2 hx⟩⟩

/-- A set lists the finite set of the names it holds. -/
theorem lists_of_contains (hc : ∀ x, s.contains x = true ↔ x ∈ A) : s.Lists A :=
  Finset.ext fun x => by rw [List.mem_toFinset, mem_toList, hc]

/-- Adding a name to a set adds it to the finite set it lists. -/
theorem Lists.insert (h : s.Lists A) (n : String) : (s.insert n).Lists (Insert.insert n A) :=
  lists_of_contains fun x => by
    rw [contains_insert, h.contains_iff, Finset.mem_insert]

/-- Removing a name from a set removes it from the finite set it lists. -/
theorem Lists.erase (h : s.Lists A) (n : String) : (s.erase n).Lists (A.erase n) :=
  lists_of_contains fun x => by
    rw [contains_erase, h.contains_iff, Finset.mem_erase]

/-- The set of a list lists the list's names read as a set. -/
theorem lists_ofList (l : List String) : (ofList l).Lists l.toFinset :=
  lists_of_contains fun x => by rw [contains_ofList, List.mem_toFinset]

end NameSet

/-! ## A policy that shows rules -/

namespace AccessPolicy

/-- A policy shows access rules when its blacklist and whitelist list the rules' sets, its
restricted table has the rules' restricted prefixes and sets that list the sets these allow,
and its switches are the rules'. -/
structure Shows (p : AccessPolicy) (r : AccessRules) : Prop where
  blacklist : p.blacklist.Lists r.blacklist
  whitelist : p.whitelist.Lists r.whitelist
  prefixes : p.restricted.keys.toFinset = r.prefixes
  allowed : ∀ q S, (q, S) ∈ p.restricted.toList → S.Lists (r.allowed q)
  enableBlacklist : p.enableBlacklist = r.enableBlacklist
  enableWhitelist : p.enableWhitelist = r.enableWhitelist
  enableRestricted : p.enableRestricted = r.enableRestricted

variable {p : AccessPolicy} {r : AccessRules}

/-- The restricted prefixes of the rules are the prefixes of the policy's table. -/
theorem Shows.mem_prefixes (h : p.Shows r) (q : String) :
    q ∈ r.prefixes ↔ ∃ S, (q, S) ∈ p.restricted.toList := by
  rw [← h.prefixes, List.mem_toFinset, NameMap.mem_keys]

/-- The restricted prefixes refuse an address on a path exactly when the rules do not admit
it there. -/
theorem Shows.restrictsPath_iff (h : p.Shows r) (ip path : String) :
    p.restrictsPath ip path = true ↔ ¬ r.Admits ip path := by
  simp only [restrictsPath, List.any_eq_true, Bool.and_eq_true, Bool.not_eq_true',
    AccessRules.Admits, not_forall, exists_prop]
  constructor
  · rintro ⟨⟨q, S⟩, hmem, hstart, hout⟩
    refine ⟨q, (h.mem_prefixes q).2 ⟨S, hmem⟩, (startsWith_iff_bytePrefix path q).1 hstart, ?_⟩
    rw [← (h.allowed q S hmem).contains_iff]
    simp [hout]
  · rintro ⟨q, hq, hpre, hout⟩
    obtain ⟨S, hmem⟩ := (h.mem_prefixes q).1 hq
    refine ⟨(q, S), hmem, (startsWith_iff_bytePrefix path q).2 hpre, ?_⟩
    rw [← (h.allowed q S hmem).contains_iff] at hout
    simpa using hout

/-- A policy that shows rules answers every check as the rules decide. -/
theorem Shows.check (h : p.Shows r) (ip path : String) : p.check ip path = r.verdict ip path := by
  have hb : (p.enableBlacklist && p.blacklist.contains ip) = true ↔
      r.enableBlacklist = true ∧ ip ∈ r.blacklist := by
    rw [Bool.and_eq_true, h.enableBlacklist, h.blacklist.contains_iff]
  have hw : (p.enableWhitelist && !p.whitelist.isEmpty && !p.whitelist.contains ip) = true ↔
      r.enableWhitelist = true ∧ r.whitelist.Nonempty ∧ ip ∉ r.whitelist := by
    rw [Bool.and_eq_true, Bool.and_eq_true, Bool.not_eq_true', Bool.not_eq_true',
      h.enableWhitelist, h.whitelist.isEmpty_eq_false_iff, ← h.whitelist.contains_iff,
      Bool.not_eq_true, and_assoc]
  have hr : (p.enableRestricted && p.restrictsPath ip path) = true ↔
      r.enableRestricted = true ∧ ¬ r.Admits ip path := by
    rw [Bool.and_eq_true, h.enableRestricted, h.restrictsPath_iff]
  simp only [AccessPolicy.check, AccessRules.verdict, hb, hw, hr]

/-- Setting a restricted prefix: the table gets the prefix with the set of the addresses in
place of its old set, and keeps every other prefix with its set. -/
theorem Shows.restrict (h : p.Shows r) (q : String) (ips : List String) :
    (p.restrict q ips).Shows (r.update (.restrict q ips)) where
  blacklist := h.blacklist
  whitelist := h.whitelist
  prefixes := by
    ext q'
    simp only [AccessPolicy.restrict, AccessRules.update]
    rw [List.mem_toFinset, NameMap.mem_keys, Finset.mem_insert, h.mem_prefixes]
    by_cases hq : q' = q
    · subst hq
      exact iff_of_true ⟨_, NameMap.mem_insert_self _ _ _⟩ (.inl rfl)
    · simp only [NameMap.mem_insert_iff, Prod.mk.injEq, hq, false_and, false_or, ne_eq,
        not_false_eq_true, and_true]
  allowed q' S hmem := by
    simp only [AccessPolicy.restrict] at hmem
    rcases NameMap.mem_insert_iff.1 hmem with he | ⟨hold, hne⟩
    · simp only [Prod.mk.injEq] at he
      obtain ⟨rfl, rfl⟩ := he
      simpa [AccessRules.update] using NameSet.lists_ofList ips
    · simpa [AccessRules.update, Function.update_of_ne hne] using h.allowed q' S hold
  enableBlacklist := h.enableBlacklist
  enableWhitelist := h.enableWhitelist
  enableRestricted := h.enableRestricted

/-- Every change keeps a policy showing the rules the same change makes. -/
theorem Shows.update (h : p.Shows r) (u : Update) : (p.update u).Shows (r.update u) := by
  cases u with
  | block ip => exact { h with blacklist := h.blacklist.insert ip }
  | unblock ip => exact { h with blacklist := h.blacklist.erase ip }
  | allow ip => exact { h with whitelist := h.whitelist.insert ip }
  | disallow ip => exact { h with whitelist := h.whitelist.erase ip }
  | restrict q ips => exact h.restrict q ips

/-- A run of changes keeps a policy showing the rules the same run makes. -/
theorem Shows.updateAll (h : p.Shows r) (us : List Update) :
    (p.updateAll us).Shows (r.updateAll us) := by
  induction us generalizing p r with
  | nil => exact h
  | cons u rest ih => exact ih (h.update u)

/-- The policy of settings shows the settings read as sets. -/
theorem shows_ofSettings (s : Config.AccessSettings) :
    (ofSettings s).Shows (AccessRules.ofSettings s) where
  blacklist := NameSet.lists_ofList _
  whitelist := NameSet.lists_ofList _
  prefixes := by simp [ofSettings, AccessRules.ofSettings]
  allowed q S hmem := by
    obtain ⟨ips, hips, hS⟩ := (NameMap.mem_mapValues _ _ _).1 hmem
    dsimp only at hips hS
    subst hS
    simpa [AccessRules.ofSettings, NameMap.find?_of_mem hips] using NameSet.lists_ofList ips
  enableBlacklist := rfl
  enableWhitelist := rfl
  enableRestricted := rfl

end AccessPolicy

/-- From any settings, after any run of changes the policy shows the rules the same changes
make of the settings read as sets: its lists hold exactly those sets, ascending and each member
once, every check answers as those rules decide, and the three switches are still the
settings'. -/
theorem updateAll_shows (s : Config.AccessSettings) (us : List AccessPolicy.Update) :
    ((AccessPolicy.ofSettings s).updateAll us).Shows ((AccessRules.ofSettings s).updateAll us) ∧
      (∀ ip path, ((AccessPolicy.ofSettings s).updateAll us).check ip path =
        ((AccessRules.ofSettings s).updateAll us).verdict ip path) ∧
      ((AccessPolicy.ofSettings s).updateAll us).enableBlacklist = s.enableBlacklist ∧
      ((AccessPolicy.ofSettings s).updateAll us).enableWhitelist = s.enableWhitelist ∧
      ((AccessPolicy.ofSettings s).updateAll us).enableRestricted = s.enableRestricted := by
  have hshow := (AccessPolicy.shows_ofSettings s).updateAll us
  exact ⟨hshow, hshow.check, AccessPolicy.updateAll_switches _ us⟩

/-- Access settings with one restricted prefix, `/admin`, open to one address. -/
def adminSettings : Config.AccessSettings :=
  ⟨["192.168.1.100"], ["::1", "127.0.0.1", "192.168.10.6"],
    NameMap.ofList [("/admin", ["192.168.1.50"])], true, false, true⟩

/-- A run of changes: block an address, unblock it, and restrict `/system`. -/
def adminChanges : List AccessPolicy.Update :=
  [.block "203.0.113.9", .unblock "203.0.113.9", .restrict "/system" ["10.0.0.2"]]

/-- The settings with `/admin` restricted, after an address is blocked and unblocked and
`/system` is restricted, show the rules the same changes make of them. -/
theorem updateAll_shows_admin :
    ((AccessPolicy.ofSettings adminSettings).updateAll adminChanges).Shows
        ((AccessRules.ofSettings adminSettings).updateAll adminChanges) ∧
      (∀ ip path, ((AccessPolicy.ofSettings adminSettings).updateAll adminChanges).check ip path =
        ((AccessRules.ofSettings adminSettings).updateAll adminChanges).verdict ip path) ∧
      ((AccessPolicy.ofSettings adminSettings).updateAll adminChanges).enableBlacklist =
        adminSettings.enableBlacklist ∧
      ((AccessPolicy.ofSettings adminSettings).updateAll adminChanges).enableWhitelist =
        adminSettings.enableWhitelist ∧
      ((AccessPolicy.ofSettings adminSettings).updateAll adminChanges).enableRestricted =
        adminSettings.enableRestricted :=
  updateAll_shows adminSettings adminChanges

end ApiGateway
