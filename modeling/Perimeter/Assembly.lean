import Perimeter.Event
import Perimeter.Plan

/-!
The assembly of a plan as the steps that events happen in.
-/

namespace Perimeter

/-- The assembly of a plan. -/
structure Assembly where
  settings : Settings
  /-- The number of services that the plan is for. -/
  services : Nat
  /-- The name of the operation. -/
  operation : String

namespace Assembly

/-- The whole step. -/
def whole (a : Assembly) : Span :=
  .plan (Topology.Kind.ofSettings a.settings).label a.operation a.services

/-- The step for the stack with objects of the CDN. -/
def secondary : Span := .secondaryStack Secondary.stackName Secondary.controlRegion

/-- The step for the stack of the application. -/
def primary (a : Assembly) : Span := .primaryStack Plan.primaryName a.settings.region

/-- The spans around an event, the outermost one first. -/
def spans (a : Assembly) : Event → List Span
  | .firewallRuleCompiled => [a.whole, secondary]
  | .noSecondaryStack => [a.whole]
  | .secondaryStackSynthesised => [a.whole, secondary]
  | .priorityIssued => [a.whole, a.primary]
  | .rulePlanned => [a.whole, a.primary]
  | .topologySelected => [a.whole]
  | .planAssembled => [a.whole]
  | _ => []

end Assembly

end Perimeter
