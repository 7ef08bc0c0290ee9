import Perimeter.Secondary
import Perimeter.Settings.Validation

/-!
Deployment plans: the chosen topology and the stacks to deploy. Stacks that offer something come
before those that use it; `Plan.deploymentOrder` finds such an order for any stacks, and
`Stack.ready` guards each step of a deployment.
-/

namespace Perimeter

/-- Everything that one deployment needs. -/
structure Plan where
  topology : Topology
  allStacks : List Stack
  baseUrl : String
  targetGroups : List TargetBinding

namespace Plan

/-- The name of the application's stack. -/
def primaryName : String := "EdgeStack"

/-- The plan of the application under the given settings, with its routes in order. -/
def assemble (s : Settings) (routes : List Route) : Except Error Plan := do
  s.validate
  let policy ← s.policy
  let secondary ← Secondary.synthesize s policy
  let topology ← Topology.select s (secondary.map (·.binding))
  let built ← topology.build (.empty primaryName s.region) routes
  return ⟨topology, (secondary.map (·.stack)).toList ++ [built.stack], built.baseUrl,
    built.targetGroups⟩

/-- The first stack of the given name. -/
def find? (p : Plan) (name : String) : Option Stack :=
  p.allStacks.find? fun s => s.name == name

/-- The application's stack. -/
def primary? (p : Plan) : Option Stack := p.find? primaryName

/-- Why stacks cannot be put into an order. -/
inductive OrderFault where
  /-- A stack waits for one that is not in the plan. -/
  | missing (stack dependency : String)
  /-- Stacks wait for each other. -/
  | cycle
deriving DecidableEq, Repr

/-- The failure to put stacks into an order. -/
def OrderFault.error : OrderFault → Error
  | missing stack dependency =>
    .crossRegion ("stack '" ++ stack ++ "' depends on '" ++ dependency ++
      "', which is not part of the plan")
  | cycle => .crossRegion "stack dependencies form a cycle"

/-- The first dependency that names no stack, with the stack that names it. -/
def missing? (names : List String) : List Stack → Option OrderFault
  | [] => none
  | s :: rest =>
    match s.dependsOn.find? fun other => !names.contains other with
    | some other => some (.missing s.name other)
    | none => missing? names rest

/-- The first stack that is not done and waits for nothing but done ones. -/
def next? (ss : List Stack) (done : List String) : Option Stack :=
  ss.find? fun s => !done.contains s.name && s.dependsOn.all fun other => done.contains other

/-- Takes the next stack a number of times. -/
def orderFrom (ss : List Stack) : Nat → List String → Except OrderFault (List Stack)
  | 0, _ => .ok []
  | n + 1, done =>
    match next? ss done with
    | none => .error .cycle
    | some s => do
      let rest ← orderFrom ss n (done ++ [s.name])
      return s :: rest

/-- The stacks in an order in which each one follows all that it depends on. -/
def order (ss : List Stack) : Except OrderFault (List Stack) :=
  match missing? (ss.map (·.name)) ss with
  | some fault => .error fault
  | none => orderFrom ss ss.length []

/-- The order in which the stacks of a plan are deployed. -/
def deploymentOrder (p : Plan) : Except Error (List Stack) :=
  (order p.allStacks).mapError OrderFault.error

/-- The number of rules in all listeners of a plan. -/
def ruleCount (p : Plan) : Nat :=
  (p.allStacks.flatMap fun s => s.ofKind "ListenerRule").length

/-- The events of planning a number of rules: a priority and a rule each time. -/
def ruleEvents (count : Nat) : List Event :=
  (List.replicate count [Event.priorityIssued, Event.rulePlanned]).flatten

/-- What is reported while a plan is assembled. -/
def events (s : Settings) (p : Plan) : List Event :=
  let secondary := match s.policy with
    | .ok policy => Secondary.events s policy
    | .error _ => []
  s.warnings ++ secondary ++ [.topologySelected] ++ ruleEvents p.ruleCount ++ [.planAssembled]

end Plan

end Perimeter
