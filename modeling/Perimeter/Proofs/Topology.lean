import Mathlib.Algebra.Group.Nat.Defs
import Perimeter.Proofs.Listener.Names
import Perimeter.Topology

/-!
Building a topology. Both shapes are built alike: some resources come before those of the routes
and some behind them (`build_eq`). Their names never collide, neither with each other nor with the
names that services give rise to (`nodup_names`), so that a topology built into an empty stack can
fail in the registration of routes only (`build_empty`).
-/

namespace Perimeter.Topology

open Resource (names)
open Ident (EndsInDigit)

/-! ### Ingress rules -/

/-- The name of the ingress rule for a range. -/
def ingressName (i : Nat) : String := "AlbIngress" ++ toString i

theorem endsInDigit_ingressName (i : Nat) : EndsInDigit (ingressName i) :=
  Ident.endsInDigit_numbered _ i

theorem ingressName_injective {i j : Nat} (same : ingressName i = ingressName j) : i = j :=
  Ident.toString_injective ((String.append_right_inj _).mp same)

/-- No rule of a service has the name of an ingress rule. -/
theorem ruleName_ne_ingressName (service : ServiceId) (i j : Nat) :
    Planner.ruleName service i ≠ ingressName j := by
  intro same
  rw [Planner.ruleName, ← String.append_assoc] at same
  have stems := (Ident.numbered_injective (Planner.not_endsInDigit_rule service) (by decide) same).1
  have last := congrArg (fun s : String => s.toList.getLast?) stems
  simp at last

/-- A number of up to 54 digits fits into a name. -/
private theorem isName_ingressName {i : Nat} (small : i < 10 ^ 54) :
    Ident.isName (ingressName i) = true := by
  refine Ident.isName_append (by decide) (fun c member => ?_) ?_
  · rw [Char.isAlphanum, Ident.isDigit_of_mem_toString member, Bool.or_true]
  · have digits : (toString i).length ≤ 54 := (Nat.length_repr_le_iff (by decide)).mpr small
    have stem : "AlbIngress".length = 10 := by decide
    omega

/-- What the ingress rules for ranges are: one for each range, numbered in order. -/
structure Numbered (port : UInt16) (start : Nat) (ranges : List Cidr) (rules : List IngressRule) :
    Prop where
  names : rules.map (·.id.text) = (List.range' start ranges.length).map ingressName
  peers : rules.map (·.peer) = ranges.map .ofCidr
  target : ∀ rule ∈ rules, rule.listener = listenerId ∧ rule.port = port

theorem numbered_of_ok {port : UInt16} {start : Nat} {ranges : List Cidr} {made : List Resource}
    (ok : ingressRules port start ranges = .ok made) :
    ∃ rules, made = rules.map .ingressRule ∧ Numbered port start ranges rules := by
  induction ranges generalizing start made with
  | nil =>
    cases ok
    exact ⟨[], rfl, rfl, rfl, by simp⟩
  | cons range ranges ih =>
    obtain ⟨id, named, ok⟩ := Outcome.bind_eq_ok.mp ok
    obtain ⟨rest, later, same⟩ := Outcome.bind_eq_ok.mp ok
    cases same
    obtain ⟨rules, rfl, names, peers, target⟩ := ih later
    refine ⟨⟨id, listenerId, .ofCidr range, port⟩ :: rules, rfl, ?_, ?_, ?_⟩
    · rw [List.map_cons, names, List.length_cons, List.range'_succ, List.map_cons,
        Ident.ofText_eq_ok.mp named]
      rfl
    · rw [List.map_cons, peers]
      rfl
    · intro rule member
      rcases List.mem_cons.mp member with rfl | listed
      · exact ⟨rfl, rfl⟩
      · exact target rule listed

theorem exists_ingressRules (port : UInt16) {start : Nat} {ranges : List Cidr}
    (few : start + ranges.length ≤ 10 ^ 54) : ∃ made, ingressRules port start ranges = .ok made := by
  induction ranges generalizing start with
  | nil => exact ⟨[], rfl⟩
  | cons range ranges ih =>
    rw [List.length_cons] at few
    obtain ⟨id, named⟩ := (Ident.exists_ofText_iff .logical _).mpr
      (isName_ingressName (i := start) (by omega))
    have fewer : start + 1 + ranges.length ≤ 10 ^ 54 := by omega
    obtain ⟨rest, later⟩ := ih fewer
    exact ⟨_, Outcome.bind_eq_ok.mpr ⟨id, named, Outcome.bind_eq_ok.mpr ⟨rest, later, rfl⟩⟩⟩

/-! ### Before and behind the routes -/

/-- The resources in front of those of the routes. -/
def before : Topology → Except Error (List Resource)
  | direct t => do
    let rules ← ingressRules (directListener t.domain).port 0 t.ingress
    return [.loadBalancer (loadBalancer t.loadBalancer t.scheme t.subnets)] ++
      (t.domain.map fun domain => .certificate (directCertificate domain)).toList ++ rules ++
      [.listener (directListener t.domain)]
  | fronted t => .ok (frontedBefore t)

theorem before_direct {d : DirectTopology} {first : List Resource}
    (made : (direct d).before = .ok first) :
    ∃ rules, Numbered (directListener d.domain).port 0 d.ingress rules ∧
      first = [.loadBalancer (loadBalancer d.loadBalancer d.scheme d.subnets)] ++
        (d.domain.map fun domain => .certificate (directCertificate domain)).toList ++
        rules.map .ingressRule ++ [.listener (directListener d.domain)] := by
  obtain ⟨made, admitted, same⟩ := Outcome.bind_eq_ok.mp made
  obtain ⟨rules, rfl, numbered⟩ := numbered_of_ok admitted
  exact ⟨rules, numbered, (Except.ok.inj same).symm⟩

/-- The resources behind those of the routes. -/
def after (stackName : String) : Topology → List Resource
  | direct t => (t.domain.map fun domain =>
      .aliasRecord ⟨directAliasId, domain.zone, domain.record, .attr loadBalancerId "DnsName"⟩).toList
  | fronted t => frontedAfter t stackName ++ (t.domain.map fun domain =>
      .aliasRecord ⟨frontedAliasId, domain.zone, domain.record,
        .attr distributionId "DomainName"⟩).toList

/-- The stack with the dependency that the topology brings. -/
def waiting (stack : Stack) : Topology → Stack
  | direct _ => stack
  | fronted t => match t.producer with
    | some producer => stack.dependOn producer
    | none => stack

theorem addOptional_eq (stack : Stack) (r : Option Resource) :
    addOptional stack r = stack.addAll r.toList := by
  cases r with
  | none => rfl
  | some r => exact (Stack.addAll_singleton stack r).symm

theorem waiting_eq (stack : Stack) (t : Topology) :
    ∃ dependsOn, t.waiting stack = { stack with dependsOn } := by
  cases t with
  | direct d => exact ⟨stack.dependsOn, rfl⟩
  | fronted f =>
    rw [waiting]
    split
    · exact stack.dependOn_eq _
    · exact ⟨stack.dependsOn, rfl⟩

/-- Both shapes are built in the same order. -/
theorem build_eq {t : Topology} {first : List Resource} (made : t.before = .ok first) (stack : Stack)
    (routes : List Route) :
    t.build stack routes = do
      let next ← (t.waiting stack).addAll first
      let (bindings, planner) ← t.planner.registerAll routes
      let last ← next.addAll (planner.resources ++ t.after stack.name)
      return ⟨last.output baseUrlOutput t.baseUrl, t.baseUrl, bindings⟩ := by
  cases t with
  | direct d =>
    obtain ⟨rules, admitted, same⟩ := Outcome.bind_eq_ok.mp made
    cases same
    simp only [build, buildDirect, waiting, after, addOptional_eq, admitted, Stack.addAll_append,
      Stack.addAll_singleton, bind_assoc]
    rfl
  | fronted f =>
    cases made
    obtain ⟨dependsOn, waits⟩ := waiting_eq stack (fronted f)
    simp only [build, buildFronted, waiting, after, addOptional_eq, Stack.addAll_append, bind_assoc]
    refine Outcome.bind_congr fun next first => Outcome.bind_congr fun result _ =>
      Outcome.bind_congr fun last added => ?_
    have named : next.name = ((fronted f).waiting stack).name := Stack.name_addAll first
    rw [Stack.name_addAll added, named, waits]

/-! ### The number of ranges -/

/-- The ranges for which a topology has ingress rules of their own. -/
def ranges : Topology → List Cidr
  | direct t => t.ingress
  | fronted _ => []

private theorem small_of_isName {i : Nat} (named : Ident.isName (ingressName i) = true) :
    i < 10 ^ 54 := by
  obtain ⟨c, cs, letters, _, short, _⟩ := (Ident.isName_iff _).mp named
  have total : (ingressName i).length ≤ 64 := by
    rw [← String.length_toList, letters, List.length_cons]
    omega
  have stem : "AlbIngress".length = 10 := by decide
  rw [ingressName, String.length_append, stem] at total
  exact (Nat.length_repr_le_iff (by decide)).mp (by omega : (toString i).length ≤ 54)

/-- Every range gets its rule as long as its number fits into a name. -/
theorem exists_before_iff (t : Topology) :
    (∃ first, t.before = .ok first) ↔ t.ranges.length ≤ 10 ^ 54 := by
  cases t with
  | fronted f => exact ⟨fun _ => Nat.zero_le _, fun _ => ⟨_, rfl⟩⟩
  | direct d =>
    constructor
    · rintro ⟨first, made⟩
      obtain ⟨rules, numbered, _⟩ := before_direct made
      show d.ingress.length ≤ 10 ^ 54
      rcases Nat.eq_zero_or_pos d.ingress.length with none | some
      · omega
      · -- The last of the ranges has the greatest number.
        have last : ingressName (d.ingress.length - 1) ∈ rules.map (·.id.text) := by
          rw [numbered.names, ← List.range_eq_range']
          exact List.mem_map_of_mem (List.mem_range.mpr (by omega))
        obtain ⟨rule, _, same⟩ := List.mem_map.mp last
        have small := small_of_isName (same ▸ rule.id.named)
        omega
    · intro few
      have fit : 0 + d.ingress.length ≤ 10 ^ 54 := (Nat.zero_add _).symm ▸ few
      obtain ⟨rules, made⟩ := exists_ingressRules (directListener d.domain).port fit
      exact ⟨_, Outcome.bind_eq_ok.mpr ⟨rules, made, rfl⟩⟩

/-! ### Names -/

/-- The names that a shape itself gives, but for those of ingress rules for ranges. -/
def fixedNames : Kind → List String
  | .direct => ["Alb", "AlbCertificate", "AlbListener", "AlbAliasRecord"]
  | .fronted => ["Alb", "CdnOriginPrefixList", "AlbIngressCdn", "AlbListener", "AlbVpcOrigin",
      "Distribution", "DistributionAliasRecord"]

/-- What a name needs to differ from all others. -/
theorem fixedNames_apart (t : Topology) :
    (fixedNames t.kind).Nodup ∧ ¬ EndsInDigit t.suffix ∧ t.suffix.toList ≠ [] ∧
      ∀ name ∈ fixedNames t.kind, ¬ EndsInDigit name ∧
        name.toList.getLast? ≠ t.suffix.toList.getLast? := by
  cases t with
  | direct d =>
    rw [kind, suffix]
    decide
  | fronted f =>
    rw [kind, suffix]
    decide

/-- The names of the resources in front of those of the routes. -/
def namesBefore : Topology → List String
  | direct t => ["Alb"] ++ (t.domain.map fun _ => "AlbCertificate").toList ++
      (List.range t.ingress.length).map ingressName ++ ["AlbListener"]
  | fronted _ => ["Alb", "CdnOriginPrefixList", "AlbIngressCdn", "AlbListener"]

/-- The names of the resources behind those of the routes. -/
def namesAfter : Topology → List String
  | direct t => (t.domain.map fun _ => "AlbAliasRecord").toList
  | fronted t => ["AlbVpcOrigin", "Distribution"] ++
      (t.domain.map fun _ => "DistributionAliasRecord").toList

theorem names_before {t : Topology} {first : List Resource} (made : t.before = .ok first) :
    names first = t.namesBefore := by
  cases t with
  | direct d =>
    obtain ⟨rules, numbered, rfl⟩ := before_direct made
    have ingress : names (rules.map .ingressRule) = (List.range d.ingress.length).map ingressName := by
      rw [List.range_eq_range', ← numbered.names, names, List.map_map]
      rfl
    rw [Resource.names_append, Resource.names_append, Resource.names_append, ingress, namesBefore]
    cases d.domain with
    | none => rfl
    | some domain => rfl
  | fronted f =>
    cases made
    rfl

theorem names_after (t : Topology) (stackName : String) : names (t.after stackName) = t.namesAfter := by
  cases t with
  | direct d =>
    rw [after, namesAfter]
    cases d.domain with
    | none => rfl
    | some domain => rfl
  | fronted f =>
    rw [after, namesAfter]
    cases f.domain with
    | none => rfl
    | some domain => rfl

/-- The names in front of and behind those of the routes are fixed ones and those of ingress rules. -/
theorem names_around (t : Topology) : ∃ own : List String, own.Sublist (fixedNames t.kind) ∧
    (t.namesBefore ++ t.namesAfter).Perm (own ++ (List.range t.ranges.length).map ingressName) := by
  cases t with
  | direct d =>
    refine ⟨["Alb"] ++ (d.domain.map fun _ => "AlbCertificate").toList ++
      (["AlbListener"] ++ (direct d).namesAfter), ?_, ?_⟩
    · rw [namesAfter]
      cases d.domain with
      | none =>
        show ["Alb", "AlbListener"].Sublist ["Alb", "AlbCertificate", "AlbListener", "AlbAliasRecord"]
        decide
      | some domain => exact .refl _
    · simp only [namesBefore, ranges, List.append_assoc]
      refine List.Perm.append_left _ (List.Perm.append_left _ ?_)
      rw [← List.append_assoc ["AlbListener"]]
      exact List.perm_append_comm
  | fronted f =>
    refine ⟨(fronted f).namesBefore ++ (fronted f).namesAfter, ?_, ?_⟩
    · rw [namesBefore, namesAfter]
      cases f.domain with
      | none => exact List.sublist_append_left _ ["DistributionAliasRecord"]
      | some domain => exact .refl _
    · rw [ranges, List.length_nil, List.range_zero, List.map_nil, List.append_nil]

private theorem nodup_around {t : Topology} {own : List String} (sub : own.Sublist (fixedNames t.kind))
    (count : Nat) : (own ++ (List.range count).map ingressName).Nodup := by
  obtain ⟨fixed, _, _, apart⟩ := fixedNames_apart t
  refine List.nodup_append.mpr ⟨fixed.sublist sub, ?_, ?_⟩
  · exact List.nodup_range.map fun _ _ same => ingressName_injective same
  · intro name inside _ ingress same
    obtain ⟨i, _, rfl⟩ := List.mem_map.mp ingress
    exact (apart name (sub.subset inside)).1 (same ▸ endsInDigit_ingressName i)

/-- No name that a topology gives can be that of something that services give rise to. -/
private theorem free_around {t : Topology} {own : List String} (sub : own.Sublist (fixedNames t.kind))
    {p : Planner} {services : List Planner.Service} (records : p.Records services)
    (suffix : p.suffix = t.suffix) {count : Nat} {name : String}
    (member : name ∈ own ++ (List.range count).map ingressName) : name ∉ names p.resources := by
  obtain ⟨_, plain, filled, apart⟩ := fixedNames_apart t
  rw [← suffix] at plain filled apart
  rcases List.mem_append.mp member with inside | ingress
  · obtain ⟨noDigit, ending⟩ := apart name (sub.subset inside)
    exact records.not_mem_names filled ending fun service i same =>
      noDigit (same ▸ Planner.endsInDigit_ruleName service i)
  · obtain ⟨i, _, rfl⟩ := List.mem_map.mp ingress
    refine records.not_mem_names filled ?_ fun service j => ruleName_ne_ingressName service j i
    intro same
    obtain ⟨c, last, digit⟩ := endsInDigit_ingressName i
    exact plain ⟨c, same.symm.trans last, digit⟩

/-- No two resources of a topology with its routes share a name, however many ranges it admits. -/
theorem nodup_names (t : Topology) {p : Planner} {services : List Planner.Service}
    (records : p.Records services) (suffix : p.suffix = t.suffix) :
    (t.namesBefore ++ (names p.resources ++ t.namesAfter)).Nodup := by
  obtain ⟨own, sub, order⟩ := t.names_around
  obtain ⟨_, plain, filled, _⟩ := fixedNames_apart t
  rw [← suffix] at plain filled
  rw [(List.perm_append_comm_assoc ..).nodup_iff]
  refine List.nodup_append.mpr ⟨records.nodup_names plain filled, ?_, ?_⟩
  · rw [order.nodup_iff]
    exact nodup_around sub _
  · intro name inside _ around same
    rw [order.mem_iff, ← same] at around
    exact free_around sub records suffix around inside

/-- The planner of either shape, with nothing registered. -/
def Kind.planner : Kind → Planner
  | direct => .empty listenerId .direct "TargetGroup"
  | fronted => .empty listenerId .fronted "TargetGroupInternal"

theorem planner_eq (t : Topology) : t.planner = t.kind.planner := by
  cases t with
  | direct d => rfl
  | fronted f => rfl

/-- What the planner of a shape holds after any run. -/
theorem Kind.records (shape : Kind) (routes : List Route) :
    (shape.planner.run routes).Records (shape.planner.accepted routes) := by
  cases shape with
  | direct => exact Planner.records_fresh _ _ _ routes
  | fronted => exact Planner.records_fresh _ _ _ routes

theorem given_planner (t : Topology) (routes : List Route) :
    (t.kind.planner.run routes).listener = listenerId ∧
      (t.kind.planner.run routes).suffix = t.suffix := by
  rw [← planner_eq]
  have given := Planner.given_run (Planner.counted_empty listenerId t.profile t.suffix) routes
  exact ⟨given.1, given.2.2⟩

/-- The names that a topology and its routes give, in the order of the resources. -/
def givenNames (t : Topology) (routes : List Route) : List String :=
  t.namesBefore ++ (routes.map (fun r => r.service.text ++ t.suffix) ++
    routes.flatMap Planner.ruleNames ++ t.namesAfter)

/-- A planner that accepts all routes holds what has the names that they give. -/
theorem names_registered {t : Topology} {routes : List Route} (all : t.planner.AcceptsAll routes) :
    names (t.planner.run routes).resources =
      routes.map (fun r => r.service.text ++ t.suffix) ++ routes.flatMap Planner.ruleNames := by
  have records := t.kind.records routes
  have services := Planner.map_accepted all
  rw [planner_eq] at services ⊢
  rw [records.names_resources, (t.given_planner routes).2]
  nth_rewrite 3 4 [← services]
  rw [List.map_map, List.flatMap_map]
  rfl

theorem nodup_givenNames {t : Topology} {routes : List Route} (all : t.planner.AcceptsAll routes) :
    (t.givenNames routes).Nodup := by
  have distinct := t.nodup_names (t.kind.records routes) (t.given_planner routes).2
  rw [← planner_eq, names_registered all] at distinct
  exact distinct

/-! ### Building into a stack -/

/-- The stack of a topology with the resources of the routes, behind those that it holds already. -/
def extended (t : Topology) (stack : Stack) (first : List Resource) (p : Planner) : Stack :=
  ((t.waiting stack).push (first ++ (p.resources ++ t.after stack.name))).output
    baseUrlOutput t.baseUrl

/-- Where the names are free, a topology can be built unless the registration of a route fails. -/
theorem build_of_free {t : Topology} {first : List Resource} (made : t.before = .ok first)
    {stack : Stack} {routes : List Route}
    (free : (names stack.resources).Disjoint (t.givenNames routes)) :
    t.build stack routes = (t.planner.registerAll routes).map fun result =>
      ⟨t.extended stack first result.2, t.baseUrl, result.1⟩ := by
  obtain ⟨dependsOn, waits⟩ := t.waiting_eq stack
  have held : (t.waiting stack).resources = stack.resources := by rw [waits]
  obtain ⟨freeBefore, freeBehind⟩ := List.disjoint_append_right.mp free
  -- The resources in front of the routes are those of a topology without routes, less the last ones.
  have start : (t.waiting stack).addAll first = .ok ((t.waiting stack).push first) := by
    have distinct := nodup_givenNames (t := t) (Planner.acceptsAll_nil _)
    rw [givenNames, ← names_before made] at distinct
    refine Stack.addAll_eq_ok_iff.mpr ⟨distinct.of_append_left, ?_, rfl⟩
    rw [held, names_before made]
    exact freeBefore
  rw [build_eq made, start]
  rcases t.planner.registerAll_cases routes with ⟨all, _, ok⟩ | ⟨e, _, _, _, failed⟩
  · have behind : names ((t.planner.run routes).resources ++ t.after stack.name) =
        routes.map (fun r => r.service.text ++ t.suffix) ++ routes.flatMap Planner.ruleNames ++
          t.namesAfter := by
      rw [Resource.names_append, names_registered all, names_after]
    obtain ⟨_, later, apart⟩ := List.nodup_append'.mp (nodup_givenNames all)
    have rest : ((t.waiting stack).push first).addAll
        ((t.planner.run routes).resources ++ t.after stack.name) =
          .ok (((t.waiting stack).push first).push
            ((t.planner.run routes).resources ++ t.after stack.name)) := by
      refine Stack.addAll_eq_ok_iff.mpr ⟨behind ▸ later, ?_, rfl⟩
      rw [behind, Stack.push, held, Resource.names_append, names_before made]
      exact List.disjoint_append_left.mpr ⟨freeBehind, apart⟩
    rw [ok]
    simp only [bind, Except.bind, Except.map] at rest ⊢
    rw [rest, Stack.push_push]
    rfl
  · rw [failed]
    rfl

/-! ### Building into an empty stack -/

/-- The stack of a topology with the resources of the routes. -/
def filled (t : Topology) (name region : String) (first : List Resource) (p : Planner) : Stack :=
  ((t.waiting (.empty name region)).push (first ++ (p.resources ++ t.after name))).output
    baseUrlOutput t.baseUrl

theorem filled_eq (t : Topology) (name region : String) (first : List Resource) (p : Planner) :
    (t.filled name region first p).name = name ∧
      (t.filled name region first p).resources = first ++ (p.resources ++ t.after name) := by
  obtain ⟨dependsOn, waits⟩ := t.waiting_eq (.empty name region)
  rw [filled, waits]
  exact ⟨rfl, rfl⟩

/-- No two resources of a stack into which a topology is built with any routes share a name. -/
theorem nodup_filled {t : Topology} {first : List Resource} (made : t.before = .ok first)
    (name region : String) (routes : List Route) :
    (names (t.filled name region first (t.kind.planner.run routes)).resources).Nodup := by
  rw [(t.filled_eq name region first _).2, Resource.names_append, Resource.names_append,
    names_before made, names_after]
  exact t.nodup_names (t.kind.records routes) (t.given_planner routes).2

/-- A topology built into an empty stack fails only where the registration of a route does. -/
theorem build_empty {t : Topology} {first : List Resource} (made : t.before = .ok first)
    (name region : String) (routes : List Route) :
    t.build (.empty name region) routes = (t.planner.registerAll routes).map fun result =>
      ⟨t.filled name region first result.2, t.baseUrl, result.1⟩ :=
  build_of_free made (List.disjoint_nil_left _)

/-! ### What services give rise to -/

/-- A resource that is neither a target group nor a rule. -/
def IsOwn (r : Resource) : Prop := r.kind ≠ "TargetGroup" ∧ r.kind ≠ "ListenerRule"

theorem isOwn_before {t : Topology} {first : List Resource} (made : t.before = .ok first) {r : Resource}
    (member : r ∈ first) : IsOwn r := by
  cases t with
  | direct d =>
    obtain ⟨rules, _, rfl⟩ := before_direct made
    simp only [List.mem_append, List.mem_singleton, List.mem_map, Option.mem_toList,
      Option.map_eq_some_iff] at member
    rcases member with ((rfl | ⟨_, _, rfl⟩) | ⟨_, _, rfl⟩) | rfl
    all_goals simp [IsOwn, Resource.kind]
  | fronted f =>
    cases made
    simp only [frontedBefore, List.mem_cons, List.not_mem_nil, or_false] at member
    rcases member with rfl | rfl | rfl | rfl
    all_goals simp [IsOwn, Resource.kind]

theorem isOwn_after {t : Topology} {name : String} {r : Resource} (member : r ∈ t.after name) :
    IsOwn r := by
  cases t with
  | direct d =>
    simp only [after, Option.mem_toList, Option.map_eq_some_iff] at member
    obtain ⟨_, _, rfl⟩ := member
    simp [IsOwn, Resource.kind]
  | fronted f =>
    simp only [after, frontedAfter, List.mem_append, List.mem_cons, List.not_mem_nil, or_false,
      Option.mem_toList, Option.map_eq_some_iff] at member
    rcases member with (rfl | rfl) | ⟨_, _, rfl⟩
    all_goals simp [IsOwn, Resource.kind]

/-- The target groups and rules of a stack are those of the planner. -/
theorem filterMap_filled {α : Type} {t : Topology} {first : List Resource}
    (made : t.before = .ok first) (name region : String) (p : Planner) {f : Resource → Option α}
    (own : ∀ r, IsOwn r → f r = none) :
    (t.filled name region first p).resources.filterMap f = p.resources.filterMap f := by
  have front : first.filterMap f = [] :=
    List.filterMap_eq_nil_iff.mpr fun r member => own r (isOwn_before made member)
  have back : (t.after name).filterMap f = [] :=
    List.filterMap_eq_nil_iff.mpr fun r member => own r (isOwn_after member)
  rw [(t.filled_eq name region first p).2, List.filterMap_append, List.filterMap_append, front, back,
    List.append_nil, List.nil_append]

/-- All other resources of a stack stand in front of those of the routes or behind them. -/
theorem filterMap_around {α : Type} (t : Topology) (name region : String) (first : List Resource)
    (p : Planner) {f : Resource → Option α} (groups : ∀ r, f (.targetGroup r) = none)
    (rules : ∀ r, f (.listenerRule r) = none) :
    (t.filled name region first p).resources.filterMap f =
      first.filterMap f ++ (t.after name).filterMap f := by
  rw [(t.filled_eq name region first p).2, List.filterMap_append, List.filterMap_append,
    p.filterMap_resources groups rules, List.nil_append]

section Own

variable {α : Type} (name region : String) (p : Planner) {g : Resource → Option α}
  (groups : ∀ r, g (.targetGroup r) = none) (rules : ∀ r, g (.listenerRule r) = none)
  (aliases : ∀ r, g (.aliasRecord r) = none)

include groups rules aliases

theorem filterMap_direct (d : DirectTopology) (first : List Resource) :
    ((direct d).filled name region first p).resources.filterMap g = first.filterMap g := by
  rw [filterMap_around _ name region first p groups rules, after]
  cases d.domain with
  | none => simp
  | some domain => simp [aliases]

theorem filterMap_fronted (f : FrontedTopology) :
    ((fronted f).filled name region (frontedBefore f) p).resources.filterMap g =
      (frontedBefore f ++ frontedAfter f name).filterMap g := by
  rw [filterMap_around _ name region _ p groups rules, after, List.filterMap_append,
    List.filterMap_append]
  cases f.domain with
  | none => simp
  | some domain => simp [aliases]

end Own

end Perimeter.Topology
