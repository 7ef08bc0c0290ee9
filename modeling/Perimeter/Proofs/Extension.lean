import Perimeter.Proofs.Topology
import Perimeter.Route.Services

/-!
Building a topology into a stack that others have filled. The build succeeds exactly if all routes
are accepted and the names that it gives are free, and then the stack has grown by resources of
these names, one output and at most one dependency (`build_exact`).
-/

namespace Perimeter.Topology

open Resource (names)

/-! ### Success -/

private theorem exists_before_of_build {t : Topology} {stack : Stack} {routes : List Route}
    {built : BuiltTopology} (ok : t.build stack routes = .ok built) :
    ∃ first, t.before = .ok first := by
  cases t with
  | fronted f => exact ⟨_, rfl⟩
  | direct d =>
    obtain ⟨_, _, ok⟩ := Outcome.bind_eq_ok.mp ok
    obtain ⟨_, _, ok⟩ := Outcome.bind_eq_ok.mp ok
    obtain ⟨rules, made, _⟩ := Outcome.bind_eq_ok.mp ok
    exact ⟨_, Outcome.bind_eq_ok.mpr ⟨rules, made, rfl⟩⟩

/-- A build that succeeds has found all routes acceptable and all names free. -/
theorem free_of_build {t : Topology} {stack : Stack} {routes : List Route} {built : BuiltTopology}
    (ok : t.build stack routes = .ok built) :
    t.planner.AcceptsAll routes ∧ (names stack.resources).Disjoint (t.givenNames routes) := by
  obtain ⟨first, made⟩ := exists_before_of_build ok
  obtain ⟨dependsOn, waits⟩ := t.waiting_eq stack
  have held : (t.waiting stack).resources = stack.resources := by rw [waits]
  rw [build_eq made] at ok
  obtain ⟨next, start, ok⟩ := Outcome.bind_eq_ok.mp ok
  obtain ⟨⟨bindings, planner⟩, registered, ok⟩ := Outcome.bind_eq_ok.mp ok
  obtain ⟨last, rest, _⟩ := Outcome.bind_eq_ok.mp ok
  obtain ⟨_, freeBefore, rfl⟩ := Stack.addAll_eq_ok_iff.mp start
  obtain ⟨_, freeBehind, _⟩ := Stack.addAll_eq_ok_iff.mp rest
  rcases t.planner.registerAll_cases routes with ⟨all, _, outcome⟩ | ⟨e, _, _, _, failed⟩
  · rw [outcome] at registered
    cases registered
    rw [held, names_before made] at freeBefore
    rw [Stack.push, held, Resource.names_append, List.disjoint_append_left, Resource.names_append,
      names_registered all, names_after] at freeBehind
    exact ⟨all, List.disjoint_append_right.mpr ⟨freeBefore, freeBehind.1⟩⟩
  · rw [failed] at registered
    cases registered

theorem build_eq_ok_iff {t : Topology} {stack : Stack} {routes : List Route} {built : BuiltTopology} :
    t.build stack routes = .ok built ↔
      t.planner.AcceptsAll routes ∧ (names stack.resources).Disjoint (t.givenNames routes) ∧
      ∃ first, t.before = .ok first ∧
        built = ⟨t.extended stack first (t.planner.run routes), t.baseUrl,
          (t.planner.accepted routes).map (·.2)⟩ := by
  constructor
  · intro ok
    obtain ⟨first, made⟩ := exists_before_of_build ok
    obtain ⟨all, free⟩ := free_of_build ok
    refine ⟨all, free, first, made, ?_⟩
    rw [build_of_free made free, Planner.registerAll_eq_ok all] at ok
    exact (Except.ok.inj ok).symm
  · rintro ⟨all, free, first, made, rfl⟩
    rw [build_of_free made free, Planner.registerAll_eq_ok all]
    rfl

/-! ### What is added -/

/-- The stack that a topology waits for. -/
def producer? : Topology → Option String
  | direct _ => none
  | fronted t => t.producer

/-- What a stack becomes when a topology is built into it with its routes. -/
structure Extends (t : Topology) (routes : List Route) (old new : Stack) : Prop where
  name : new.name = old.name
  region : new.region = old.region
  resources : ∃ added, new.resources = old.resources ++ added ∧ names added = t.givenNames routes
  outputs : ∀ key, new.outputs.lookup key =
    if key = baseUrlOutput then some t.baseUrl else old.outputs.lookup key
  ascending : old.outputs.Pairwise (·.1 < ·.1) → new.outputs.Pairwise (·.1 < ·.1)
  dependsOn : new.dependsOn = match t.producer? with
    | none => old.dependsOn
    | some producer =>
      if producer ∈ old.dependsOn then old.dependsOn else old.dependsOn ++ [producer]

theorem dependsOn_waiting (t : Topology) (stack : Stack) :
    (t.waiting stack).dependsOn = match t.producer? with
      | none => stack.dependsOn
      | some producer =>
        if producer ∈ stack.dependsOn then stack.dependsOn else stack.dependsOn ++ [producer] := by
  cases t with
  | direct d => rfl
  | fronted f =>
    rw [waiting, producer?]
    cases f.producer with
    | none => rfl
    | some producer =>
      simp only [Stack.dependOn, List.contains_iff_mem]
      split
      · rfl
      · rfl

theorem extends_extended {t : Topology} {first : List Resource} (made : t.before = .ok first)
    {routes : List Route} (all : t.planner.AcceptsAll routes) (stack : Stack) :
    t.Extends routes stack (t.extended stack first (t.planner.run routes)) := by
  obtain ⟨dependsOn, waits⟩ := t.waiting_eq stack
  have awaited := t.dependsOn_waiting stack
  rw [waits] at awaited
  unfold extended
  rw [waits]
  refine ⟨rfl, rfl, ⟨_, rfl, ?_⟩, ?_, ?_, awaited⟩
  · rw [Resource.names_append, Resource.names_append, names_before made, names_registered all,
      names_after]
    rfl
  · exact Stack.lookup_setKey baseUrlOutput t.baseUrl stack.outputs
  · exact Stack.ascending_setKey baseUrlOutput t.baseUrl

/-- Building is exact and only adds, whatever the stack holds already. The names that a topology
gives never collide with each other. A build therefore succeeds exactly if a fresh planner accepts
all routes in order and the stack has none of these names, as long as the number of each range fits
into a name (10⁵⁴ ranges are more than a memory can hold); the stack then keeps everything it has. -/
theorem build_exact (t : Topology) (stack : Stack) (routes : List Route) :
    (t.planner.AcceptsAll routes → (t.givenNames routes).Nodup) ∧
    ((∃ built, t.build stack routes = .ok built) ↔
      t.ranges.length ≤ 10 ^ 54 ∧ t.planner.AcceptsAll routes ∧
        (names stack.resources).Disjoint (t.givenNames routes)) ∧
    ∀ built, t.build stack routes = .ok built → t.Extends routes stack built.stack := by
  refine ⟨nodup_givenNames, ?_, ?_⟩
  · rw [← exists_before_iff]
    constructor
    · rintro ⟨built, ok⟩
      obtain ⟨all, free, first, made, _⟩ := build_eq_ok_iff.mp ok
      exact ⟨⟨first, made⟩, all, free⟩
    · rintro ⟨⟨first, made⟩, all, free⟩
      exact ⟨_, build_eq_ok_iff.mpr ⟨all, free, first, made, rfl⟩⟩
  · intro built ok
    obtain ⟨all, _, first, made, rfl⟩ := build_eq_ok_iff.mp ok
    exact extends_extended made all stack

/-- The application behind a CDN, without a domain. -/
example (loadBalancer : LoadBalancerSettings) :
    (fronted ⟨none, none, none, none, loadBalancer⟩).givenNames Route.services =
      ["Alb", "CdnOriginPrefixList", "AlbIngressCdn", "AlbListener",
        "ApiTargetGroupInternal", "ExtensionTargetGroupInternal", "WebTargetGroupInternal",
        "ApiRule0", "ApiRule1", "ExtensionRule0", "WebRule0", "AlbVpcOrigin", "Distribution"] := by
  rfl

end Perimeter.Topology
