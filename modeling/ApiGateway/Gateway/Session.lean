import ApiGateway.Gateway.Dispatch

/-!
# A gateway session

A session drives a running gateway with commands: requests, health checks, moves of
the request clock, and changes to the access policy made while the gateway runs. A
request answers its response and a health check its report; the other commands answer
nothing.

Main statements:
* `step_health`: a health check changes nothing but due resets.
* `run_append`: running two lists of commands is running one after the other.
-/

namespace ApiGateway.Gateway

open ApiGateway.Http

/-- A command to a running gateway. -/
inductive Command where
  /-- Handle a request. -/
  | request (req : Request)
  /-- Report the breaker's phase and failure count. -/
  | health
  /-- Move the request clock forward by some seconds. -/
  | advanceClock (secs : Nat)
  /-- Set the request clock. -/
  | setClock (secs : Nat)
  /-- Refuse an address everywhere. -/
  | block (ip : String)
  /-- Take an address off the refused list. -/
  | unblock (ip : String)
  /-- Admit an address under the whitelist. -/
  | allow (ip : String)
  /-- Take an address off the whitelist. -/
  | disallow (ip : String)
  /-- Set the addresses allowed under a path prefix. -/
  | restrict (pathPrefix : String) (ips : List String)

namespace GatewayState

/-- Carries out one command: its answer, if it has one, and the new state. -/
def step (g : GatewayState) (env : Surroundings) : Command → Option Response × GatewayState
  | .request req => let (r, g') := g.serve env req; (some r, g')
  | .health => let g' := g.settle env; (some g'.healthResponse, g')
  | .advanceClock secs => (none, { g with clock := g.clock.advance secs })
  | .setClock secs => (none, { g with clock := g.clock.set secs })
  | .block ip => (none, { g with access := g.access.block ip })
  | .unblock ip => (none, { g with access := g.access.unblock ip })
  | .allow ip => (none, { g with access := g.access.allow ip })
  | .disallow ip => (none, { g with access := g.access.disallow ip })
  | .restrict p ips => (none, { g with access := g.access.restrict p ips })

/-- Carries out commands in order: their answers and the final state. -/
def run (g : GatewayState) (env : Surroundings) :
    List Command → List (Option Response) × GatewayState
  | [] => ([], g)
  | c :: cs =>
    let (a, g') := g.step env c
    let (as, g'') := g'.run env cs
    (a :: as, g'')

/-- A health check changes nothing but due resets. -/
theorem step_health (g : GatewayState) (env : Surroundings) :
    (g.step env .health).2 = g.settle env := rfl

/-- Running two lists of commands is running one after the other. -/
theorem run_append (g : GatewayState) (env : Surroundings) (cs ds : List Command) :
    g.run env (cs ++ ds) =
      ((g.run env cs).1 ++ ((g.run env cs).2.run env ds).1, ((g.run env cs).2.run env ds).2) := by
  induction cs generalizing g with
  | nil => rfl
  | cons c rest ih =>
    simp only [List.cons_append, run, ih]

end GatewayState

end ApiGateway.Gateway
