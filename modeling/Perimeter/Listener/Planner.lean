import Perimeter.Listener.Batch
import Perimeter.Listener.Priority
import Perimeter.Resource.Basic

/-!
Planning the rules of a listener. Services are registered one after another; each gets a target
group and as many rules as its patterns need, with priorities in the order of registration. A
route that cannot be served as it stands is rejected (`Planner.register`).
-/

namespace Perimeter

/-- A planned rule: one batch of the patterns of a service. -/
structure PlannedRule where
  id : LogicalId
  service : ServiceId
  priority : Priority
  patterns : List String
  targetGroup : LogicalId
deriving DecidableEq

/-- Where the running instances of a service are to be attached. -/
structure TargetBinding where
  service : ServiceId
  targetGroup : LogicalId
  port : UInt16
deriving DecidableEq

/-- The state of a listener's plan. -/
structure Planner where
  listener : LogicalId
  profile : HealthProfile
  /-- What is appended to the name of a service to name its target group. -/
  suffix : String
  priorities : Priority.Allocator
  targetGroups : List TargetGroup
  rules : List PlannedRule
  /-- The patterns of accepted services with their owners, in order. -/
  claimed : List (ServiceId × String)
deriving DecidableEq

namespace Planner

/-- The most rules that a listener holds. -/
def maxRules : Nat := 100

/-- Seconds that a leaving target still gets requests in flight. -/
def deregistrationDelay : UInt64 := 10

/-- A planner to which nothing has been registered. -/
def empty (listener : LogicalId) (profile : HealthProfile) (suffix : String := "TargetGroup") :
    Planner :=
  ⟨listener, profile, suffix, .initial, [], [], []⟩

/-- Why a well-formed route cannot be registered. -/
inductive Refusal where
  | registered
  /-- An earlier service has a pattern that leaves nothing for a pattern of this one. -/
  | shadowed (pattern earlier : String) (owner : ServiceId)
  | noRoom (needed room : Nat)
  | noPriorities
deriving DecidableEq

/-- The failure of a registration that is refused. -/
def Refusal.error (listener : LogicalId) (service : ServiceId) : Refusal → Error
  | registered =>
    .constraint ("service '" ++ service.text ++ "' is already registered on listener '" ++
      listener.text ++ "'")
  | shadowed pattern earlier owner =>
    .constraint ("path pattern '" ++ pattern ++ "' of service '" ++ service.text ++
      "' is already matched by '" ++ earlier ++ "' of service '" ++ owner.text ++ "'")
  | noRoom needed room =>
    .constraint ("service '" ++ service.text ++ "' needs " ++ toString needed ++
      " rules but listener '" ++ listener.text ++ "' has room for " ++ toString room)
  | noPriorities =>
    .constraint ("listener '" ++ listener.text ++ "' has no priorities left for service '" ++
      service.text ++ "'")

/-- The first claim of another service that covers a pattern. -/
def shadowing? (claimed : List (ServiceId × String)) (service : ServiceId) (pattern : String) :
    Option (ServiceId × String) :=
  claimed.find? fun claim => claim.1 != service && Pattern.covers claim.2 pattern

/-- The first pattern that a claim of another service covers. -/
def overlap? (claimed : List (ServiceId × String)) (service : ServiceId) :
    List String → Option Refusal
  | [] => none
  | p :: ps =>
    match shadowing? claimed service p with
    | some (owner, earlier) => some (.shadowed p earlier owner)
    | none => overlap? claimed service ps

/-- Why a well-formed route is refused in the present state, if it is. -/
def refusal? (p : Planner) (r : Route) : Option Refusal :=
  if p.targetGroups.any fun group => group.service == r.service then some .registered
  else
    match overlap? p.claimed r.service r.expandedPatterns with
    | some refusal => some refusal
    | none =>
      let needed := Batch.count r.expandedPatterns.length Batch.maxValues
      if maxRules < p.rules.length + needed then
        some (.noRoom needed (maxRules - p.rules.length))
      else if p.priorities.remaining.toNat < needed then some .noPriorities
      else none

/-- The names of the first rules of a service. -/
def ruleIds (service : ServiceId) (count : Nat) : Except Error (List LogicalId) :=
  (List.range count).mapM fun i => service.child ("Rule" ++ toString i)

/-- Appends one rule for each name and batch, with the next priority. -/
def appendRules (service : ServiceId) (group : LogicalId) :
    List (LogicalId × List String) → Planner → Except Error Unit × Planner
  | [], p => (.ok (), p)
  | (id, patterns) :: rest, p =>
    match p.priorities.next with
    | (.error e, priorities) => (.error e, { p with priorities })
    | (.ok priority, priorities) =>
      let rule : PlannedRule := ⟨id, service, priority, patterns, group⟩
      appendRules service group rest { p with priorities, rules := p.rules ++ [rule] }

/-- The target group of a route under a name. -/
def targetGroup (p : Planner) (r : Route) (id : LogicalId) : TargetGroup where
  id
  service := r.service
  protocol := .http
  port := r.port
  deregistrationDelay
  health := p.profile.resolve r.health

/-- What must be settled before the plan is changed: the name of the target group, and the rules
by name and batch. -/
def prepare (p : Planner) (r : Route) :
    Except Error (LogicalId × List (LogicalId × List String)) := do
  r.validate
  if let some refusal := p.refusal? r then
    throw (refusal.error p.listener r.service)
  let patterns := r.expandedPatterns
  let group ← r.service.child p.suffix
  let ids ← ruleIds r.service (Batch.count patterns.length Batch.maxValues)
  let batches ← Batch.ofList patterns Batch.maxValues
  return (group, ids.zip batches)

/-- Registers a service: a target group, and one rule for each batch of its patterns. -/
def register (p : Planner) (r : Route) : Except Error TargetBinding × Planner :=
  match p.prepare r with
  | .error e => (.error e, p)
  | .ok (group, rules) =>
    match appendRules r.service group rules p with
    | (.error e, p) => (.error e, p)
    | (.ok (), p) =>
      (.ok ⟨r.service, group, r.port⟩,
        { p with
          claimed := p.claimed ++ r.expandedPatterns.map fun pattern => (r.service, pattern)
          targetGroups := p.targetGroups ++ [p.targetGroup r group] })

/-- Registers routes in order, all of which must be accepted. -/
def registerAll : List Route → Planner → Except Error (List TargetBinding × Planner)
  | [], p => .ok ([], p)
  | r :: rs, p =>
    match p.register r with
    | (.error e, _) => .error e
    | (.ok binding, p) => do
      let (bindings, p) ← registerAll rs p
      return (binding :: bindings, p)

/-- A planned rule as a resource of the listener. -/
def PlannedRule.resource (listener : LogicalId) (rule : PlannedRule) : Resource :=
  .listenerRule ⟨rule.id, listener, rule.priority.value, rule.patterns, rule.targetGroup⟩

/-- The target groups, then the rules, in the order of registration. -/
def resources (p : Planner) : List Resource :=
  p.targetGroups.map .targetGroup ++ p.rules.map (PlannedRule.resource p.listener)

end Planner

end Perimeter
