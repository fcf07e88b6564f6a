import ApiGateway.Data.NameMap
import ApiGateway.Routing.Endpoint
import ApiGateway.Config.Basic

/-!
# The route registry

The registry maps a request path to a route name and a route name to an endpoint. Paths
are routed by prefix: the prefix table is ordered by prefix length in bytes, longest
first, with prefixes of equal length kept in the order given, and the first prefix that
starts the path names the route. A path that no prefix starts goes to the default route.
A route's endpoint is chosen by a draw below the route's total weight.

Main statements:
* `routeFor_of_noMatch`: a path that no prefix starts goes to the default route.
* `resolve_isSome_iff`: a draw resolves a route exactly when the route is known and the
  draw lies below its total weight.
-/

namespace ApiGateway

/-- Routes by name, and the prefix table ordered longest prefix first. -/
structure Registry where
  /-- The endpoint list of each route. -/
  routes : NameMap (List Endpoint)
  /-- The prefix table, longest prefix first. -/
  prefixes : List (String × String)
  /-- The route of a path that no prefix starts. -/
  defaultRoute : String

namespace Registry

/-- Orders a prefix table by prefix length in bytes, longest first, keeping the given order
among prefixes of equal length. -/
def orderPrefixes (ps : List (String × String)) : List (String × String) :=
  ps.mergeSort fun a b => decide (b.1.utf8ByteSize ≤ a.1.utf8ByteSize)

/-- The registry of the given routes, prefix table and default route. -/
def new (routes : NameMap (List Endpoint)) (prefixes : List (String × String))
    (defaultRoute : String) : Registry :=
  ⟨routes, orderPrefixes prefixes, defaultRoute⟩

/-- The registry of the routing settings. -/
def ofSettings (s : Config.RoutingSettings) : Registry :=
  new s.routes s.prefixes s.defaultRoute

/-- The route of a path: that of the first prefix, longest first, that starts it. -/
def routeFor (reg : Registry) (path : String) : String :=
  match reg.prefixes.find? (fun p => path.startsWith p.1) with
  | some p => p.2
  | none => reg.defaultRoute

/-- The total weight of a route, when the route is known. -/
def totalWeight? (reg : Registry) (route : String) : Option Nat :=
  (reg.routes.find? route).map Endpoint.totalWeight

/-- The endpoint that a draw chooses for a route. -/
def resolve (reg : Registry) (route : String) (draw : Nat) : Option Endpoint :=
  (reg.routes.find? route).bind fun eps => Endpoint.pick? eps draw

/-- The routes with their endpoint lists, ordered by name. -/
def routeList (reg : Registry) : List (String × List Endpoint) := reg.routes.toList

/-- A path that no prefix starts goes to the default route. -/
theorem routeFor_of_noMatch (reg : Registry) (path : String)
    (h : ∀ p ∈ reg.prefixes, path.startsWith p.1 = false) :
    reg.routeFor path = reg.defaultRoute := by
  have hnone : reg.prefixes.find? (fun p => path.startsWith p.1) = none := by
    rw [List.find?_eq_none]
    intro p hp
    simp [h p hp]
  simp [routeFor, hnone]

/-- A draw resolves a route exactly when the route is known and the draw lies below its
total weight. -/
theorem resolve_isSome_iff (reg : Registry) (route : String) (draw : Nat) :
    (reg.resolve route draw).isSome ↔
      ∃ eps, reg.routes.find? route = some eps ∧ draw < Endpoint.totalWeight eps := by
  unfold resolve
  cases h : reg.routes.find? route with
  | none => simp
  | some eps => simp [Endpoint.pick?_isSome_iff]

end Registry

end ApiGateway
