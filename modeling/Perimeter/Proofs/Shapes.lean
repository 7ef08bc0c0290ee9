import Perimeter.Proofs.Listener.Twin
import Perimeter.Proofs.References

/-!
The two shapes side by side. A CDN in front of the load balancer changes nothing about the routing
behind it: both shapes accept the same routes and give them the same rules, except that a long name
of a service may leave no room for the longer suffix of the fronted shape
(`Topology.shapes_route_alike`).
-/

namespace Perimeter

def Resource.listenerRule? : Resource → Option ListenerRule
  | listenerRule r => some r
  | _ => none

/-- The rules of a stack, in order. -/
def Stack.listenerRules (s : Stack) : List ListenerRule :=
  s.resources.filterMap Resource.listenerRule?

namespace Topology

/-! ### Alike -/

/-- Two rules send the same requests to the target groups of the same service. -/
structure RulesAlike (routes : List Route) (direct fronted : ListenerRule) : Prop where
  id : fronted.id = direct.id
  listener : fronted.listener = direct.listener
  priority : fronted.priority = direct.priority
  patterns : fronted.patterns = direct.patterns
  targetGroups : ∃ r ∈ routes, direct.targetGroup.text = r.service.text ++ "TargetGroup" ∧
    fronted.targetGroup.text = r.service.text ++ "TargetGroupInternal"

/-- Two target groups of a route differ only in their names and in what the route leaves open about
its health check. -/
structure GroupsAlike (r : Route) (direct fronted : TargetGroup) : Prop where
  names : direct.id.text = r.service.text ++ "TargetGroup" ∧
    fronted.id.text = r.service.text ++ "TargetGroupInternal"
  service : direct.service = r.service ∧ fronted.service = r.service
  protocol : fronted.protocol = direct.protocol
  port : fronted.port = direct.port
  delay : fronted.deregistrationDelay = direct.deregistrationDelay
  path : fronted.health.path = direct.health.path
  interval : r.health.interval.isSome → fronted.health.interval = direct.health.interval
  healthy : r.health.healthyThreshold.isSome →
    fronted.health.healthyThreshold = direct.health.healthyThreshold
  unhealthy : r.health.unhealthyThreshold.isSome →
    fronted.health.unhealthyThreshold = direct.health.unhealthyThreshold
  codes : r.health.healthyCodes.isSome → fronted.health.healthyCodes = direct.health.healthyCodes

/-- Two stacks route requests alike. -/
structure RoutesAlike (routes : List Route) (direct fronted : Stack) : Prop where
  rules : List.Forall₂ (RulesAlike routes) direct.listenerRules fronted.listenerRules
  groups : List.Forall₂ (fun a b => ∃ r ∈ routes, GroupsAlike r a b)
    direct.targetGroups fronted.targetGroups

private theorem getD_eq_of_isSome {α : Type} {given : Option α} (set : given.isSome = true) (a b : α) :
    given.getD a = given.getD b := by
  cases given with
  | none => cases set
  | some _ => rfl

variable {p q : Planner}

theorem groupsAlike_of {r : Route} {a b : TargetGroup} (suffix : p.suffix = "TargetGroup")
    (suffix' : q.suffix = "TargetGroupInternal") (both : Planner.GroupsOf p q r a b) :
    GroupsAlike r a b := by
  obtain ⟨name, left, name', right⟩ := both
  rw [suffix] at name
  rw [suffix'] at name'
  generalize a.id = id at name left
  generalize b.id = id' at name' right
  subst left right
  exact ⟨⟨name, name'⟩, ⟨rfl, rfl⟩, rfl, rfl, rfl, rfl, fun set => getD_eq_of_isSome set _ _,
    fun set => getD_eq_of_isSome set _ _, fun set => getD_eq_of_isSome set _ _,
    fun set => getD_eq_of_isSome set _ _⟩

theorem rulesAlike_of {routes : List Route} {r : Route} (listed : r ∈ routes) {a b : PlannedRule}
    (suffix : p.suffix = "TargetGroup") (suffix' : q.suffix = "TargetGroupInternal")
    (both : Planner.RulesOf p q r a b) (listener : LogicalId) :
    RulesAlike routes ⟨a.id, listener, a.priority.value, a.patterns, a.targetGroup⟩
      ⟨b.id, listener, b.priority.value, b.patterns, b.targetGroup⟩ := by
  obtain ⟨group, group', id, priority, patterns⟩ := both
  rw [suffix] at group
  rw [suffix'] at group'
  exact ⟨id, rfl, congrArg Priority.value priority, patterns, r, listed, group, group'⟩

theorem listenerRules_filled {t : Topology} {first : List Resource} (made : t.before = .ok first)
    (name region : String) (planner : Planner) :
    (t.filled name region first planner).listenerRules = planner.rules.map fun rule =>
      ⟨rule.id, planner.listener, rule.priority.value, rule.patterns, rule.targetGroup⟩ := by
  have own : ∀ r, IsOwn r → Resource.listenerRule? r = none := by
    intro r other
    cases r with
    | listenerRule _ => exact absurd rfl other.2
    | _ => rfl
  rw [Stack.listenerRules, filterMap_filled made name region planner own]
  simp [Planner.resources, List.filterMap_append, List.filterMap_map, Function.comp_def,
    Planner.PlannedRule.resource, Resource.listenerRule?]

/-! ### The two shapes -/

/-- What fits behind a name with the longer suffix fits with the shorter one. -/
private theorem fits_shorter (service : ServiceId)
    (named : Ident.isName (service.text ++ "TargetGroupInternal") = true) :
    Ident.isName (service.text ++ "TargetGroup") = true := by
  obtain ⟨c, cs, letters, _, short, _⟩ := (Ident.isName_iff _).mp named
  have total := congrArg List.length letters
  have suffix : "TargetGroupInternal".length = 19 := by decide
  have suffix' : "TargetGroup".length = 11 := by decide
  rw [String.length_toList, String.length_append, suffix, List.length_cons] at total
  exact Ident.isName_append service.named (List.all_eq_true.mp (by decide)) (by omega)

/-- The longer suffix has 19 letters, so 45 remain for the service. -/
private theorem long_of_not_isName {service : ServiceId}
    (long : Ident.isName (service.text ++ "TargetGroupInternal") = false) :
    45 < service.text.length := by
  by_contra short
  have suffix : "TargetGroupInternal".length = 19 := by decide
  have named := Ident.isName_append (t := "TargetGroupInternal") service.named
    (List.all_eq_true.mp (by decide)) (by omega)
  rw [long] at named
  cases named

theorem twin_shapes (d : DirectTopology) (f : FrontedTopology) :
    Planner.Twin (direct d).planner (fronted f).planner [] := Planner.twin_empty ..

/-- Runs over which both shapes stay in step leave stacks that route alike. -/
theorem routesAlike_filled {d : DirectTopology} {f : FrontedTopology} {first first' : List Resource}
    (made : (direct d).before = .ok first) (made' : (fronted f).before = .ok first')
    (name region name' region' : String) {routes : List Route}
    (twin : Planner.Twin ((direct d).planner.run routes) ((fronted f).planner.run routes) routes) :
    RoutesAlike routes ((direct d).filled name region first ((direct d).planner.run routes))
      ((fronted f).filled name' region' first' ((fronted f).planner.run routes)) := by
  have suffix := ((direct d).given_planner routes).2
  have suffix' := ((fronted f).given_planner routes).2
  rw [← planner_eq] at suffix suffix'
  constructor
  · rw [listenerRules_filled made, listenerRules_filled made', twin.listener,
      List.forall₂_map_left_iff, List.forall₂_map_right_iff]
    refine twin.rules.imp ?_
    rintro a b ⟨r, listed, both⟩
    exact rulesAlike_of listed suffix suffix' both _
  · rw [Plan.targetGroups_filled made, Plan.targetGroups_filled made']
    refine twin.groups.imp ?_
    rintro a b ⟨r, listed, both⟩
    exact ⟨r, listed, groupsAlike_of suffix suffix' both⟩

theorem build_empty_eq_error_iff {t : Topology} {first : List Resource} (made : t.before = .ok first)
    (name region : String) (routes : List Route) (e : Error) :
    t.build (.empty name region) routes = .error e ↔ t.planner.FirstRefusal routes e := by
  rw [build_empty made, Outcome.map_eq_error, Planner.registerAll_eq_error_iff]

theorem build_empty_of_accepts {t : Topology} {first : List Resource} (made : t.before = .ok first)
    (name region : String) {routes : List Route} (all : t.planner.AcceptsAll routes) :
    t.build (.empty name region) routes = .ok ⟨t.filled name region first (t.planner.run routes),
      t.baseUrl, (t.planner.accepted routes).map (·.2)⟩ := by
  rw [build_empty made, Planner.registerAll_eq_ok all]
  rfl

/-- A CDN does not change routing. Where the fronted shape can be built, so can the direct one, with
the same rules in the same order and target groups that differ in names and open health values only.
Where it cannot be built, the direct shape fails with the same error, or the name of a service has
more than 45 characters and the name of its target group would have more than 64. A range's number
must fit into a name, which it does for more ranges than a memory can hold. -/
theorem shapes_route_alike (d : DirectTopology) (few : d.ingress.length ≤ 10 ^ 54)
    (f : FrontedTopology) (name region name' region' : String) (routes : List Route) :
    let direct := (Topology.direct d).build (.empty name region) routes
    let fronted := (Topology.fronted f).build (.empty name' region') routes
    (∀ built', fronted = .ok built' → ∃ built, direct = .ok built ∧
      RoutesAlike routes built.stack built'.stack) ∧
    (∀ e, fronted = .error e → direct = .error e ∨ ∃ r ∈ routes, 45 < r.service.text.length ∧
      e = Ident.malformed .logical (r.service.text ++ "TargetGroupInternal")) ∧
    ((∀ r ∈ routes, r.service.text.length ≤ 45) →
      ((∃ built, direct = .ok built) ↔ ∃ built', fronted = .ok built')) := by
  intro direct fronted
  obtain ⟨first, made⟩ := (exists_before_iff (.direct d)).mpr few
  have made' : (Topology.fronted f).before = .ok (frontedBefore f) := rfl
  have refused := build_empty_eq_error_iff made name region routes
  have refused' := build_empty_eq_error_iff made' name' region' routes
  rcases (twin_shapes d f).run routes fits_shorter with
    ⟨all, all', twin⟩ | ⟨e, here, there⟩ | ⟨r, listed, long, there⟩
  · have ok : direct = .ok _ := build_empty_of_accepts made name region all
    have ok' : fronted = .ok _ := build_empty_of_accepts made' name' region' all'
    refine ⟨?_, ?_, fun _ => ⟨fun _ => ⟨_, ok'⟩, fun _ => ⟨_, ok⟩⟩⟩
    · intro built' same
      rw [ok'] at same
      cases same
      exact ⟨_, ok, routesAlike_filled made made' name region name' region' twin⟩
    · intro e failed
      rw [ok'] at failed
      cases failed
  · have failed : direct = .error e := (refused e).mpr here
    have failed' : fronted = .error e := (refused' e).mpr there
    rw [failed, failed']
    refine ⟨?_, ?_, fun _ => ?_⟩
    · intro built' impossible
      cases impossible
    · intro e' same
      exact .inl same
    · simp
  · have failed' : fronted = .error _ := (refused' _).mpr there
    have tooLong := long_of_not_isName long
    rw [failed']
    refine ⟨?_, ?_, fun short => absurd (short r listed) (Nat.not_le.mpr tooLong)⟩
    · intro built' impossible
      cases impossible
    · intro e' same
      cases same
      exact .inr ⟨r, listed, tooLong, rfl⟩

/-- A private load balancer without a domain. -/
private def plainDirect : DirectTopology :=
  ⟨.internal, .hiddenAndIsolated, [.anyIpv4], none, Settings.initial.loadBalancer⟩

/-- The same behind a CDN. -/
private def plainFronted : FrontedTopology :=
  ⟨none, none, none, none, Settings.initial.loadBalancer⟩

theorem shapes_route_alike_services :
    ∃ built built', (direct plainDirect).build (.empty "Site" "eu-west-1") Route.services = .ok built ∧
      (fronted plainFronted).build (.empty "Site" "eu-west-1") Route.services = .ok built' ∧
      RoutesAlike Route.services built.stack built'.stack := by
  obtain ⟨alike, _, _⟩ := shapes_route_alike plainDirect (by decide) plainFronted "Site" "eu-west-1"
    "Site" "eu-west-1" Route.services
  obtain ⟨built', outcome'⟩ :
      ∃ built', (fronted plainFronted).build (.empty "Site" "eu-west-1") Route.services = .ok built' :=
    Outcome.exists_ok_of_isOk (by decide +kernel)
  obtain ⟨built, outcome, same⟩ := alike built' outcome'
  exact ⟨built, built', outcome, outcome', same⟩

/-- A name of 46 letters leaves room for the shorter suffix only. -/
example :
    let long : Route := ⟨.literal "Abcdefghijklmnopqrstuvwxyzabcdefghijklmnopqrst", 80, .http "/", ["/"]⟩
    ((direct plainDirect).build (.empty "Site" "eu-west-1") [long]).isOk = true ∧
      ((fronted plainFronted).build (.empty "Site" "eu-west-1") [long]).isOk = false := by
  decide +kernel

end Topology

end Perimeter
