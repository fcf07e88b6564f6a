import Mathlib
import ApiGateway.Config.Environment

/-!
# Routes from endpoint-list variables

The routes come from the variables named `<NAME>_SERVICE_ENDPOINTS`, read one after the other
in the order the environment lists them. A variable names a route (`NamesRoute`) when its name
is UTF-8 text that ends with the suffix after a non-empty `<NAME>` and its value is UTF-8 text;
any other variable is passed over. The value of a variable that names a route is read as an
endpoint list: the first one refused stops the reading and is reported under the variable's
name; otherwise the route `<NAME>` lowercased gets the list, a later variable replacing an
earlier one, so names that differ only in case make one route.

Main statements:
* `collectRoutes_first_refused_last_defined`: reading fails exactly at the first variable that
  names a route with a refused list (`Refused`), all before it accepted (`Accepted`); when none
  is refused, each route maps to the list of the last variable that defines it (`Defines`); and
  a variable that names no route can be dropped from the environment without changing anything.
-/

namespace ApiGateway.Config

open ApiGateway.Text

/-! ## The suffix of a variable's name -/

/-- The text before a suffix is exactly what the suffix was appended to. -/
theorem stripSuffix?_eq_some_iff (suffix s name : String) :
    stripSuffix? suffix s = some name ↔ s = name ++ suffix := by
  unfold stripSuffix?
  dsimp only
  split
  next h =>
    obtain ⟨t, ht⟩ := List.isSuffixOf_iff_suffix.1 h
    have htake : s.toList.take (s.toList.length - suffix.length) = t := by
      rw [← ht, List.length_append, String.length_toList, Nat.add_sub_cancel]
      exact List.take_left' rfl
    rw [htake, Option.some.injEq]
    constructor
    · rintro rfl
      apply String.toList_inj.1
      rw [String.toList_append, String.toList_ofList, ht]
    · intro h'
      have ht' : t = name.toList := by
        have happ : t ++ suffix.toList = name.toList ++ suffix.toList := by
          rw [ht, h', String.toList_append]
        exact List.append_cancel_right happ
      rw [ht', String.ofList_toList]
  next h =>
    simp only [reduceCtorEq, false_iff]
    rintro rfl
    exact h (List.isSuffixOf_iff_suffix.2 ⟨name.toList, by rw [String.toList_append]⟩)

/-! ## What one variable contributes -/

/-- A variable names a route: its name is the UTF-8 text `name ++ "_SERVICE_ENDPOINTS"` with a
non-empty `name`, and its value is the UTF-8 text `v`. -/
structure NamesRoute (p : List UInt8 × List UInt8) (name v : String) : Prop where
  key : ofUtf8? p.1 = some (name ++ endpointsSuffix)
  nameNe : name ≠ ""
  value : ofUtf8? p.2 = some v

/-- Every route a variable names has a list that reads. -/
def Accepted (p : List UInt8 × List UInt8) : Prop :=
  ∀ name v, NamesRoute p name v → ∃ eps, readEndpoints v = .ok eps

/-- A variable names a route whose list is refused, and `err` reports the refusal under the
variable's name. -/
def Refused (p : List UInt8 × List UInt8) (err : ConfigError) : Prop :=
  ∃ name v e, NamesRoute p name v ∧ readEndpoints v = .error e ∧
    err = .variable (name ++ endpointsSuffix) e

/-- A variable defines route `r` with the endpoints `eps`: it names a route whose name
lowercases to `r`, and its list reads as `eps`. -/
def Defines (p : List UInt8 × List UInt8) (r : String) (eps : List Endpoint) : Prop :=
  ∃ name v, NamesRoute p name v ∧ lowerText name = r ∧ readEndpoints v = .ok eps

/-- A variable names at most one route, with one list. -/
theorem NamesRoute.unique {p : List UInt8 × List UInt8} {name v name' v' : String}
    (h : NamesRoute p name v) (h' : NamesRoute p name' v') : name = name' ∧ v = v' := by
  have hkey := h.key.symm.trans h'.key
  rw [Option.some.injEq, ← String.toList_inj, String.toList_append, String.toList_append] at hkey
  refine ⟨String.toList_inj.1 (List.append_cancel_right hkey), ?_⟩
  exact Option.some.inj (h.value.symm.trans h'.value)

/-- A variable that names no route gives none. -/
theorem routeOfVariable_of_not_namesRoute {p : List UInt8 × List UInt8}
    (h : ∀ name v, ¬NamesRoute p name v) : routeOfVariable p.1 p.2 = .ok none := by
  unfold routeOfVariable
  cases hk : ofUtf8? p.1 with
  | none => rfl
  | some k =>
    dsimp only
    cases hs : stripSuffix? endpointsSuffix k with
    | none => rfl
    | some name =>
      dsimp only
      by_cases hne : name.isEmpty = true
      · rw [if_pos hne]
      · rw [if_neg hne]
        cases hv : ofUtf8? p.2 with
        | none => rfl
        | some v =>
          -- the variable names `name`, against the hypothesis
          refine absurd ⟨?_, ?_, hv⟩ (h name v)
          · rw [hk, ← (stripSuffix?_eq_some_iff _ _ _).1 hs]
          · simpa using hne

/-- A variable that names a route gives what reading its list gives: the lowercased name
with the list, or the refusal under the variable's name. -/
theorem routeOfVariable_of_namesRoute {p : List UInt8 × List UInt8} {name v : String}
    (h : NamesRoute p name v) :
    routeOfVariable p.1 p.2 = ((readEndpoints v).map fun eps => some (lowerText name, eps)).mapError
      (.variable (name ++ endpointsSuffix)) := by
  have hne : name.isEmpty = false := by simpa using h.nameNe
  unfold routeOfVariable
  rw [h.key]
  dsimp only
  rw [(stripSuffix?_eq_some_iff _ _ _).2 rfl]
  dsimp only
  rw [if_neg (by simp [hne]), h.value]
  dsimp only
  cases readEndpoints v with
  | ok eps => rfl
  | error e => rfl

/-- A variable that names a route whose list reads gives the lowercased name and the list. -/
theorem routeOfVariable_of_accepted {p : List UInt8 × List UInt8} {name v : String}
    {eps : List Endpoint} (h : NamesRoute p name v) (hr : readEndpoints v = .ok eps) :
    routeOfVariable p.1 p.2 = .ok (some (lowerText name, eps)) := by
  rw [routeOfVariable_of_namesRoute h, hr]
  rfl

/-- A variable that names a route whose list is refused fails, naming the variable. -/
theorem routeOfVariable_of_refused {p : List UInt8 × List UInt8} {name v : String}
    {e : EntryError} (h : NamesRoute p name v) (hr : readEndpoints v = .error e) :
    routeOfVariable p.1 p.2 = .error (.variable (name ++ endpointsSuffix) e) := by
  rw [routeOfVariable_of_namesRoute h, hr]
  rfl

/-- A variable names no route, or names one whose list is accepted, or names one whose list is
refused. -/
theorem variable_cases (p : List UInt8 × List UInt8) :
    (∀ name v, ¬NamesRoute p name v) ∨
      (∃ name v eps, NamesRoute p name v ∧ readEndpoints v = .ok eps) ∨
      ∃ name v e, NamesRoute p name v ∧ readEndpoints v = .error e := by
  by_cases h : ∃ name v, NamesRoute p name v
  · obtain ⟨name, v, hn⟩ := h
    cases hr : readEndpoints v with
    | ok eps => exact .inr (.inl ⟨name, v, eps, hn, hr⟩)
    | error e => exact .inr (.inr ⟨name, v, e, hn, hr⟩)
  · exact .inl fun name v hn => h ⟨name, v, hn⟩

/-! ## One step of the reading -/

section Steps

variable {p : List UInt8 × List UInt8} {rest : List (List UInt8 × List UInt8)}
  {acc : NameMap (List Endpoint)}

/-- A variable that names no route is passed over. -/
theorem collectRoutes_cons_skip (h : ∀ name v, ¬NamesRoute p name v) :
    collectRoutes (p :: rest) acc = collectRoutes rest acc := by
  obtain ⟨k, v⟩ := p
  have hr := routeOfVariable_of_not_namesRoute h
  simp only [collectRoutes, hr]

/-- A variable that names a route whose list reads sets that route, replacing any earlier
list. -/
theorem collectRoutes_cons_accepted {name v : String} {eps : List Endpoint}
    (h : NamesRoute p name v) (hr : readEndpoints v = .ok eps) :
    collectRoutes (p :: rest) acc = collectRoutes rest (acc.insert (lowerText name) eps) := by
  obtain ⟨k, w⟩ := p
  have hroute := routeOfVariable_of_accepted h hr
  simp only [collectRoutes, hroute]

/-- A variable that names a route whose list is refused ends the reading with its error. -/
theorem collectRoutes_cons_refused {name v : String} {e : EntryError}
    (h : NamesRoute p name v) (hr : readEndpoints v = .error e) :
    collectRoutes (p :: rest) acc = .error (.variable (name ++ endpointsSuffix) e) := by
  obtain ⟨k, w⟩ := p
  have hroute := routeOfVariable_of_refused h hr
  simp only [collectRoutes, hroute]

end Steps

/-- Reading two runs of variables one after the other reads the first, then the second from
where the first ended. -/
theorem collectRoutes_append (l₁ l₂ : List (List UInt8 × List UInt8))
    (acc : NameMap (List Endpoint)) :
    collectRoutes (l₁ ++ l₂) acc = collectRoutes l₁ acc >>= collectRoutes l₂ := by
  induction l₁ generalizing acc with
  | nil => rfl
  | cons p rest ih =>
    rcases variable_cases p with h | ⟨name, v, eps, h, hr⟩ | ⟨name, v, e, h, hr⟩
    · rw [List.cons_append, collectRoutes_cons_skip h, collectRoutes_cons_skip h, ih]
    · rw [List.cons_append, collectRoutes_cons_accepted h hr, collectRoutes_cons_accepted h hr, ih]
    · rw [List.cons_append, collectRoutes_cons_refused h hr, collectRoutes_cons_refused h hr]
      rfl

/-! ## The first refused variable -/

/-- The first element satisfying `R`, past elements that all satisfy `A`, in a list `q :: rest`:
`q` itself, or one in `rest` with `q` satisfying `A`. -/
theorem exists_first_cons {β : Type} {A R : β → Prop} {q : β} {rest : List β} :
    (∃ pre x post, q :: rest = pre ++ x :: post ∧ (∀ y ∈ pre, A y) ∧ R x) ↔
      R q ∨ (A q ∧ ∃ pre x post, rest = pre ++ x :: post ∧ (∀ y ∈ pre, A y) ∧ R x) := by
  constructor
  · rintro ⟨pre, x, post, h, hA, hR⟩
    cases pre with
    | nil =>
      obtain ⟨rfl, rfl⟩ := List.cons.inj h
      exact .inl hR
    | cons y pre =>
      obtain ⟨rfl, rfl⟩ := List.cons.inj h
      exact .inr ⟨hA _ List.mem_cons_self, pre, x, post, rfl,
        fun z hz => hA z (List.mem_cons_of_mem _ hz), hR⟩
  · rintro (hR | ⟨hA, pre, x, post, rfl, hpre, hR⟩)
    · exact ⟨[], q, rest, rfl, by simp, hR⟩
    · refine ⟨q :: pre, x, post, rfl, fun y hy => ?_, hR⟩
      rcases List.mem_cons.1 hy with rfl | hy
      · exact hA
      · exact hpre y hy

/-- Reading fails exactly at the first variable that names a route with a refused list, every
variable before it being accepted; what it reports does not depend on the routes read before. -/
theorem collectRoutes_eq_error_iff (vars : List (List UInt8 × List UInt8))
    (acc : NameMap (List Endpoint)) (err : ConfigError) :
    collectRoutes vars acc = .error err ↔
      ∃ pre p post, vars = pre ++ p :: post ∧ (∀ q ∈ pre, Accepted q) ∧ Refused p err := by
  induction vars generalizing acc with
  | nil => simp [collectRoutes]
  | cons p rest ih =>
    rw [exists_first_cons]
    rcases variable_cases p with h | ⟨name, v, eps, h, hr⟩ | ⟨name, v, e, h, hr⟩
    · -- a variable that names no route is neither refused nor an obstacle
      have hnot : ¬Refused p err := fun ⟨name, v, _, hn, _⟩ => h name v hn
      have hacc : Accepted p := fun name v hn => absurd hn (h name v)
      rw [collectRoutes_cons_skip h, ih]
      simp [hnot, hacc]
    · have hnot : ¬Refused p err := fun ⟨name', v', e', hn', hr', _⟩ => by
        obtain ⟨-, rfl⟩ := h.unique hn'
        rw [hr] at hr'
        cases hr'
      have hacc : Accepted p := fun name' v' hn' => by
        obtain ⟨-, rfl⟩ := h.unique hn'
        exact ⟨eps, hr⟩
      rw [collectRoutes_cons_accepted h hr, ih]
      simp [hnot, hacc]
    · have hrefused : Refused p err ↔ err = .variable (name ++ endpointsSuffix) e := by
        constructor
        · rintro ⟨name', v', e', hn', hr', rfl⟩
          obtain ⟨rfl, rfl⟩ := h.unique hn'
          rw [hr] at hr'
          cases hr'
          rfl
        · rintro rfl
          exact ⟨name, v, e, h, hr, rfl⟩
      have hnacc : ¬Accepted p := fun hacc => by
        obtain ⟨eps, hok⟩ := hacc name v h
        rw [hr] at hok
        cases hok
      rw [collectRoutes_cons_refused h hr, hrefused]
      simp [hnacc, eq_comm]

/-! ## The last defining variable -/

/-- The route a variable defines, when it names one whose list reads. -/
def definedRoute (p : List UInt8 × List UInt8) : Option (String × List Endpoint) :=
  match routeOfVariable p.1 p.2 with
  | .ok r => r
  | .error _ => none

/-- A variable gives a route exactly when it defines it. -/
theorem definedRoute_eq_some_iff (p : List UInt8 × List UInt8) (r : String)
    (eps : List Endpoint) : definedRoute p = some (r, eps) ↔ Defines p r eps := by
  rcases variable_cases p with h | ⟨name, v, eps', h, hr⟩ | ⟨name, v, e, h, hr⟩
  · simp only [definedRoute, routeOfVariable_of_not_namesRoute h, reduceCtorEq, false_iff]
    exact fun ⟨name, v, hn, _⟩ => h name v hn
  · simp only [definedRoute, routeOfVariable_of_accepted h hr, Option.some.injEq, Prod.mk.injEq]
    constructor
    · rintro ⟨rfl, rfl⟩
      exact ⟨name, v, h, rfl, hr⟩
    · rintro ⟨name', v', hn', rfl, hr'⟩
      obtain ⟨rfl, rfl⟩ := h.unique hn'
      rw [hr] at hr'
      cases hr'
      exact ⟨rfl, rfl⟩
  · simp only [definedRoute, routeOfVariable_of_refused h hr, reduceCtorEq, false_iff]
    rintro ⟨name', v', hn', -, hr'⟩
    obtain ⟨-, rfl⟩ := h.unique hn'
    rw [hr] at hr'
    cases hr'

/-- When every variable is accepted, reading inserts the defined routes one after the other. -/
theorem collectRoutes_of_accepted {vars : List (List UInt8 × List UInt8)}
    (h : ∀ p ∈ vars, Accepted p) (acc : NameMap (List Endpoint)) :
    collectRoutes vars acc =
      .ok ((vars.filterMap definedRoute).foldl (fun m e => m.insert e.1 e.2) acc) := by
  induction vars generalizing acc with
  | nil => rfl
  | cons p rest ih =>
    have hrest := ih fun q hq => h q (List.mem_cons_of_mem p hq)
    rcases variable_cases p with hp | ⟨name, v, eps, hn, hr⟩ | ⟨name, v, e, hn, hr⟩
    · have hnone : definedRoute p = none := by
        simp [definedRoute, routeOfVariable_of_not_namesRoute hp]
      rw [collectRoutes_cons_skip hp, List.filterMap_cons_none hnone, hrest]
    · have hsome : definedRoute p = some (lowerText name, eps) :=
        (definedRoute_eq_some_iff p _ _).2 ⟨name, v, hn, rfl, hr⟩
      rw [collectRoutes_cons_accepted hn hr, List.filterMap_cons_some hsome, List.foldl_cons,
        hrest]
    · obtain ⟨eps, hok⟩ := h p List.mem_cons_self name v hn
      rw [hr] at hok
      cases hok

/-- A reading that succeeds has accepted every variable. -/
theorem accepted_of_collectRoutes_eq_ok {vars : List (List UInt8 × List UInt8)}
    {acc m : NameMap (List Endpoint)} (h : collectRoutes vars acc = .ok m) :
    ∀ p ∈ vars, Accepted p := by
  induction vars generalizing acc with
  | nil => simp
  | cons p rest ih =>
    rcases variable_cases p with hp | ⟨name, v, eps, hn, hr⟩ | ⟨name, v, e, hn, hr⟩
    · rw [collectRoutes_cons_skip hp] at h
      exact List.forall_mem_cons.2 ⟨fun name v hn' => absurd hn' (hp name v), ih h⟩
    · rw [collectRoutes_cons_accepted hn hr] at h
      refine List.forall_mem_cons.2 ⟨fun name' v' hn' => ?_, ih h⟩
      obtain ⟨-, rfl⟩ := hn.unique hn'
      exact ⟨eps, hr⟩
    · rw [collectRoutes_cons_refused hn hr] at h
      cases h

/-- When every variable is accepted, a route maps to the list of the last variable that defines
it. -/
theorem find?_collectRoutes {vars : List (List UInt8 × List UInt8)}
    (h : ∀ p ∈ vars, Accepted p) (r : String) (eps : List Endpoint) :
    (NameMap.ofList (vars.filterMap definedRoute)).find? r = some eps ↔
      ∃ pre p post, vars = pre ++ p :: post ∧ Defines p r eps ∧
        ∀ q ∈ post, ∀ name v, NamesRoute q name v → lowerText name ≠ r := by
  rw [NameMap.find?_ofList_eq_some_iff]
  constructor
  · rintro ⟨before, after, hfm, hafter⟩
    obtain ⟨l₁, l₂, rfl, -, hl₂⟩ := List.filterMap_eq_append_iff.1 hfm
    obtain ⟨l₃, p, post, rfl, -, hp, hpost⟩ := List.filterMap_eq_cons_iff.1 hl₂
    refine ⟨l₁ ++ l₃, p, post, by simp, (definedRoute_eq_some_iff p r eps).1 hp, ?_⟩
    intro q hq name v hn
    -- a later variable that names a route defines it, so its route is among the later ones
    obtain ⟨eps', hr'⟩ := h q (by simp [hq]) name v hn
    have hq' : definedRoute q = some (lowerText name, eps') :=
      (definedRoute_eq_some_iff q _ _).2 ⟨name, v, hn, rfl, hr'⟩
    exact hafter _ (hpost ▸ List.mem_filterMap.2 ⟨q, hq, hq'⟩)
  · rintro ⟨pre, p, post, rfl, hdef, hpost⟩
    have hp := (definedRoute_eq_some_iff p r eps).2 hdef
    refine ⟨pre.filterMap definedRoute, post.filterMap definedRoute, by
      rw [List.filterMap_append, List.filterMap_cons_some hp], fun e he => ?_⟩
    obtain ⟨q, hq, hqe⟩ := List.mem_filterMap.1 he
    obtain ⟨name, v, hn, hlow, -⟩ := (definedRoute_eq_some_iff q e.1 e.2).1 hqe
    rw [← hlow]
    exact hpost q hq name v hn

/-! ## Main statement -/

/-- Reading the routes of the endpoint-list variables: it fails exactly at the first variable
that names a route with a refused list, every earlier one accepted, and reports the refusal
under that variable's name; when no list is refused it succeeds, and each route maps exactly to
the list of the last variable that defines it, names that lowercase alike making one route; and
a variable that names no route, anywhere in the environment, changes nothing. -/
theorem collectRoutes_first_refused_last_defined :
    (∀ vars err, collectRoutes vars NameMap.empty = .error err ↔
        ∃ pre p post, vars = pre ++ p :: post ∧ (∀ q ∈ pre, Accepted q) ∧ Refused p err) ∧
      (∀ vars, (∀ p ∈ vars, Accepted p) →
        ∃ m, collectRoutes vars NameMap.empty = .ok m ∧ ∀ r eps, m.find? r = some eps ↔
          ∃ pre p post, vars = pre ++ p :: post ∧ Defines p r eps ∧
            ∀ q ∈ post, ∀ name v, NamesRoute q name v → lowerText name ≠ r) ∧
      ∀ pre p post, (∀ name v, ¬NamesRoute p name v) →
        collectRoutes (pre ++ p :: post) NameMap.empty =
          collectRoutes (pre ++ post) NameMap.empty := by
  refine ⟨fun vars err => collectRoutes_eq_error_iff vars _ err, fun vars h => ?_,
    fun pre p post h => ?_⟩
  · exact ⟨_, collectRoutes_of_accepted h _, find?_collectRoutes h⟩
  · rw [collectRoutes_append, collectRoutes_append]
    cases collectRoutes pre NameMap.empty with
    | error e => rfl
    | ok m => exact collectRoutes_cons_skip h

end ApiGateway.Config
