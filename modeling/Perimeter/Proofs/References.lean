import Perimeter.Proofs.Plan
import Perimeter.Route.Services

/-!
References between resources. A resource names others of its own stack (`Resource.links`) and holds
tokens for values of others (`Resource.tokenUses`), some of them in another stack. In an assembled
plan each of them leads to a resource of the kind that is meant (`Plan.no_dangling_reference`).
-/

namespace Perimeter

/-! ### What a resource refers to -/

/-- A reference by name, with the kind of resource that is meant. -/
structure Link where
  kind : String
  target : LogicalId

/-- A token in its place, with the attributes that may stand there, each behind the kind of resource
that has it. -/
structure TokenUse where
  token : Token
  meant : List (String × String)

def TokenUse.certificate (token : Token) : TokenUse := ⟨token, [("Certificate", "Arn")]⟩

def TokenUse.firewall (token : Token) : TokenUse := ⟨token, [("WebAcl", "Arn")]⟩

def TokenUse.address (token : Token) : TokenUse :=
  ⟨token, [("LoadBalancer", "DnsName"), ("Distribution", "DomainName")]⟩

namespace Resource

def links : Resource → List Link
  | listener r => [⟨"LoadBalancer", r.loadBalancer⟩]
  | listenerRule r => [⟨"Listener", r.listener⟩, ⟨"TargetGroup", r.targetGroup⟩]
  | ingressRule r => [⟨"Listener", r.listener⟩]
  | webAcl r => r.rules.flatMap fun rule => rule.statement.leaves.filterMap fun
    | .ipSet id => some ⟨"IpSet", id⟩
    | _ => none
  | vpcOrigin r => [⟨"LoadBalancer", r.loadBalancer⟩]
  | distribution r => [⟨"VpcOrigin", r.origin⟩]
  | _ => []

def tokenUses : Resource → List TokenUse
  | listener r => r.certificates.map .certificate
  | ingressRule r => match r.peer with
    | .addressList token => [⟨token, [("PrefixListLookup", "PrefixListId")]⟩]
    | _ => []
  | distribution r => r.certificate.toList.map .certificate ++ r.webAcl.toList.map .firewall
  | aliasRecord r => [.address r.target]
  | _ => []

def targetGroup? : Resource → Option TargetGroup
  | targetGroup r => some r
  | _ => none

theorem mem_links_webAcl {acl : WebAcl} {link : Link} (member : link ∈ (webAcl acl).links) :
    ∃ rule ∈ acl.rules, ∃ id, Expression.ipSet id ∈ rule.statement.leaves ∧ link = ⟨"IpSet", id⟩ := by
  obtain ⟨rule, listed, inside⟩ := List.mem_flatMap.mp member
  obtain ⟨leaf, leafListed, found⟩ := List.mem_filterMap.mp inside
  cases leaf with
  | ipSet id => exact ⟨rule, listed, id, leafListed, (Option.some.inj found).symm⟩
  | geo _ => cases found
  | all _ => cases found

end Resource

namespace Topology

/-- The tokens that a topology has been given. -/
def tokenUses : Topology → List TokenUse
  | direct _ => []
  | fronted t => t.certificate.toList.map .certificate ++ t.firewall.toList.map .firewall

/-- Where a topology without a domain is reached. -/
def address : Topology → Token
  | direct _ => .attr loadBalancerId "DnsName"
  | fronted _ => .attr distributionId "DomainName"

/-- The kind of the resource at which clients of a shape arrive, and the attribute with its address. -/
def Kind.entry : Kind → String × String
  | direct => ("LoadBalancer", "DnsName")
  | fronted => ("Distribution", "DomainName")

theorem stack_address (t : Topology) : t.address.stack = none := by
  cases t with
  | direct _ => rfl
  | fronted _ => rfl

theorem baseUrl_eq (t : Topology) :
    (∃ domain, t.domain? = some domain ∧ t.baseUrl = "https://" ++ domain.hostName) ∨
      ∃ scheme, t.baseUrl = scheme ++ t.address.text := by
  unfold baseUrl
  cases named : t.domain? with
  | some domain => exact .inl ⟨domain, rfl, rfl⟩
  | none =>
    cases t with
    | direct _ => exact .inr ⟨_, rfl⟩
    | fronted _ => exact .inr ⟨_, rfl⟩

theorem outputs_filled (t : Topology) (name region : String) (first : List Resource) (p : Planner) :
    (t.filled name region first p).outputs = [(baseUrlOutput, t.baseUrl)] := by
  obtain ⟨_, waits⟩ := t.waiting_eq (.empty name region)
  rw [filled, waits]
  rfl

end Topology

/-- A token as it is written in the stack of its resource. -/
def Token.localForm (t : Token) : Token := { t with stack := none }

namespace Stack

/-- A name leads to a resource of the given kind. -/
def Holds (s : Stack) (kind : String) (id : LogicalId) : Prop :=
  ∃ r, s.find? id.text = some r ∧ r.kind = kind

theorem holds_of_mem {s : Stack} (distinct : (Resource.names s.resources).Nodup) {r : Resource}
    (member : r ∈ s.resources) : s.Holds r.kind r.id := ⟨r, find?_of_nodup distinct member, rfl⟩

/-- The target groups of a stack, in order. -/
def targetGroups (s : Stack) : List TargetGroup := s.resources.filterMap Resource.targetGroup?

end Stack

namespace Plan

/-- A token of a stack leads to an attribute that is meant. A value of another stack must be waited
for, and that stack must offer it. -/
def Resolves (p : Plan) (consumer : Stack) (use : TokenUse) : Prop :=
  ∃ kind, (kind, use.token.property) ∈ use.meant ∧
    match use.token.stack with
    | none => consumer.Holds kind use.token.resource
    | some name => name ∈ consumer.dependsOn ∧ ∃ producer, p.find? name = some producer ∧
        producer.Holds kind use.token.resource ∧
        ∃ key, (key, use.token.localForm.text) ∈ producer.outputs

/-- All that a resource of a stack refers to exists. -/
structure Supports (p : Plan) (s : Stack) (r : Resource) : Prop where
  links : ∀ link ∈ r.links, s.Holds link.kind link.target
  tokens : ∀ use ∈ r.tokenUses, p.Resolves s use

/-- All that is referred to exists, under one name each, and no address set is left unused. -/
structure Closed (p : Plan) (s : Stack) : Prop where
  distinct : (Resource.names s.resources).Nodup
  supported : ∀ r ∈ s.resources, p.Supports s r
  sets : ∀ set, .ipSet set ∈ s.resources → ∃ acl, .webAcl acl ∈ s.resources ∧
    set.scope = acl.scope ∧ ∃ rule ∈ acl.rules, Expression.ipSet set.id ∈ rule.statement.leaves

/-- What a stack offers leads to the host name of the application or to an attribute of the stack's
own resources. -/
def Offers (p : Plan) (s : Stack) (value : String) : Prop :=
  (∃ domain, p.topology.domain? = some domain ∧ value = "https://" ++ domain.hostName) ∨
  ∃ (scheme : String) (token : Token), value = scheme ++ token.text ∧ token.stack = none ∧
    ∃ use ∈ [TokenUse.certificate token, .firewall token, .address token], p.Resolves s use

/-- What a stack waits for exists, and so does what it offers. -/
structure Linked (p : Plan) (s : Stack) : Prop where
  waits : ∀ other ∈ s.dependsOn, ∃ producer, p.find? other = some producer
  offers : ∀ output ∈ s.outputs, p.Offers s output.2

variable {p : Plan} {stack : Stack} {planner : Planner} {services : List Planner.Service}

theorem supports_of_none {r : Resource} (links : r.links = []) (tokens : r.tokenUses = []) :
    p.Supports stack r := ⟨by simp [links], by simp [tokens]⟩

theorem resolves_attr {id : LogicalId} {kind property : String} {meant : List (String × String)}
    (held : stack.Holds kind id) (listed : (kind, property) ∈ meant) :
    p.Resolves stack ⟨.attr id property, meant⟩ := ⟨kind, listed, held⟩

/-! ### The stack for the CDN -/

theorem closed_secondary (p : Plan) (s : Settings) (policy : Policy) :
    p.Closed (Secondary.complete s policy).stack := by
  have distinct := Secondary.nodup_complete s policy
  refine ⟨distinct, fun r member => ?_, fun set member => ?_⟩
  · rcases Secondary.mem_resources.mp member with ⟨_, _, rfl⟩ | ⟨filled, ⟨_, _, rfl⟩ | rfl⟩
    · exact supports_of_none rfl rfl
    · exact supports_of_none rfl rfl
    · refine ⟨fun link named => ?_, by simp [Resource.tokenUses]⟩
      obtain ⟨rule, listed, id, leaf, rfl⟩ := Resource.mem_links_webAcl named
      obtain ⟨set, found, rfl⟩ := (Firewall.exists_leaf_iff .cdn policy id).mp ⟨rule, listed, leaf⟩
      exact Stack.holds_of_mem distinct
        (Secondary.mem_resources.mpr (.inr ⟨filled, .inl ⟨set, found, rfl⟩⟩))
  · rcases Secondary.mem_resources.mp member with
      ⟨_, _, impossible⟩ | ⟨filled, ⟨_, found, same⟩ | impossible⟩
    · cases impossible
    · cases same
      exact ⟨_, Secondary.mem_resources.mpr (.inr ⟨filled, .inr rfl⟩),
        Firewall.scope_of_mem_setsOf found,
        (Firewall.exists_leaf_iff .cdn policy _).mpr ⟨_, found, rfl⟩⟩
    · cases impossible

theorem linked_secondary (p : Plan) (s : Settings) (policy : Policy) :
    p.Linked (Secondary.complete s policy).stack := by
  have distinct := Secondary.nodup_complete s policy
  refine ⟨fun other waited => absurd waited List.not_mem_nil, fun output offered => .inr ?_⟩
  rcases Secondary.mem_outputs.mp offered with ⟨zone, named, rfl⟩ | ⟨filled, rfl⟩
  · have held := Stack.holds_of_mem distinct (Secondary.mem_resources.mpr (.inl ⟨zone, named, rfl⟩))
    exact ⟨"", Secondary.handle Secondary.certificateId, (String.empty_append ..).symm, rfl, _,
      List.mem_cons_self .., resolves_attr held (List.mem_singleton_self _)⟩
  · have held := Stack.holds_of_mem distinct
      (Secondary.mem_resources (s := s).mpr (.inr ⟨filled, .inr rfl⟩))
    exact ⟨"", Secondary.handle Secondary.webAclId, (String.empty_append ..).symm, rfl, _,
      List.mem_cons_of_mem _ (List.mem_cons_self ..), resolves_attr held (List.mem_singleton_self _)⟩

/-! ### The application's stack -/

/-- What services give rise to refers to the listener and to target groups of theirs. -/
theorem supports_of_registered (records : planner.Records services)
    (distinct : (Resource.names stack.resources).Nodup) {first last : List Resource}
    (all : stack.resources = first ++ (planner.resources ++ last))
    (listener : stack.Holds "Listener" planner.listener) {r : Resource}
    (member : r ∈ planner.resources) : p.Supports stack r := by
  rcases Planner.mem_resources.mp member with ⟨_, _, rfl⟩ | ⟨planned, listed, rfl⟩
  · exact supports_of_none rfl rfl
  · obtain ⟨group, recorded, same⟩ := records.exists_group listed
    have target : stack.Holds "TargetGroup" planned.targetGroup := by
      rw [← same]
      refine Stack.holds_of_mem distinct (r := .targetGroup group) ?_
      rw [all]
      exact List.mem_append_right _ (List.mem_append_left _
        (Planner.mem_resources.mpr (.inl ⟨group, recorded, rfl⟩)))
    exact ⟨by simp [Planner.PlannedRule.resource, Resource.links, listener, target],
      by simp [Planner.PlannedRule.resource, Resource.tokenUses]⟩

theorem not_mem_registered (set : IpSet) : .ipSet set ∉ planner.resources := by
  simp [Planner.mem_resources, Planner.PlannedRule.resource]

variable {first : List Resource} {name : String}

theorem holds_listening {t : Topology} (made : t.before = .ok first)
    (distinct : (Resource.names stack.resources).Nodup)
    (all : stack.resources = first ++ (planner.resources ++ t.after name)) :
    stack.Holds "LoadBalancer" Topology.loadBalancerId ∧
      stack.Holds "Listener" Topology.listenerId := by
  cases t with
  | direct d =>
    obtain ⟨rules, _, rfl⟩ := Topology.before_direct made
    have listener : (Topology.directListener d.domain).id = Topology.listenerId := by
      cases d.domain with
      | none => rfl
      | some _ => rfl
    constructor
    · exact Stack.holds_of_mem distinct
        (r := .loadBalancer (Topology.loadBalancer d.loadBalancer d.scheme d.subnets)) (by simp [all])
    · rw [← listener]
      exact Stack.holds_of_mem distinct (r := .listener (Topology.directListener d.domain))
        (by simp [all])
  | fronted f =>
    cases made
    exact ⟨Stack.holds_of_mem distinct
      (r := .loadBalancer (Topology.loadBalancer f.loadBalancer .internal .hidden))
      (by simp [all, Topology.frontedBefore]),
      Stack.holds_of_mem distinct (r := .listener (Topology.listener .http []))
        (by simp [all, Topology.frontedBefore])⟩

theorem holds_address {t : Topology} (made : t.before = .ok first)
    (distinct : (Resource.names stack.resources).Nodup)
    (all : stack.resources = first ++ (planner.resources ++ t.after name)) :
    stack.Holds t.kind.entry.1 t.address.resource := by
  cases t with
  | direct d => exact (holds_listening made distinct all).1
  | fronted f =>
    exact Stack.holds_of_mem distinct (r := .distribution (Topology.distribution f name))
      (by simp [all, Topology.after, Topology.frontedAfter])

theorem resolves_address {t : Topology} (made : t.before = .ok first)
    (distinct : (Resource.names stack.resources).Nodup)
    (all : stack.resources = first ++ (planner.resources ++ t.after name)) :
    p.Resolves stack (.address t.address) := by
  have held := holds_address made distinct all
  cases t with
  | direct d => exact resolves_attr held (List.mem_cons_self ..)
  | fronted f => exact resolves_attr held (List.mem_cons_of_mem _ (List.mem_singleton_self _))

theorem closed_direct {d : DirectTopology} (made : (Topology.direct d).before = .ok first)
    (records : planner.Records services) (listener : planner.listener = Topology.listenerId)
    (distinct : (Resource.names stack.resources).Nodup)
    (all : stack.resources = first ++ (planner.resources ++ (Topology.direct d).after name)) :
    p.Closed stack := by
  obtain ⟨balancer, listens⟩ := holds_listening made distinct all
  have address : p.Resolves stack _ := resolves_address made distinct all
  obtain ⟨rules, numbered, rfl⟩ := Topology.before_direct made
  refine ⟨distinct, fun r member => ?_, fun set member => ?_⟩
  · rw [all] at member
    simp only [Topology.after, List.mem_append, List.mem_singleton, List.mem_map, Option.mem_toList,
      Option.map_eq_some_iff] at member
    rcases member with (((rfl | ⟨_, _, rfl⟩) | ⟨rule, listed, rfl⟩) | rfl) | registered | ⟨_, _, rfl⟩
    · exact supports_of_none rfl rfl
    · exact supports_of_none rfl rfl
    · -- The peers are ranges, which refer to nothing.
      have peer : rule.peer ∈ d.ingress.map .ofCidr := by
        rw [← numbered.peers]
        exact List.mem_map_of_mem listed
      obtain ⟨range, _, same⟩ := List.mem_map.mp peer
      refine ⟨?_, ?_⟩
      · simp [Resource.links, (numbered.target rule listed).1, listens]
      · cases range with
        | v4 _ _ => simp [Resource.tokenUses, ← same, Peer.ofCidr, Cidr.family]
        | v6 _ _ => simp [Resource.tokenUses, ← same, Peer.ofCidr, Cidr.family]
    · cases published : d.domain with
      | none =>
        exact ⟨by simp [Resource.links, Topology.directListener, Topology.listener, balancer],
          by simp [Resource.tokenUses, Topology.directListener, Topology.listener]⟩
      | some domain =>
        have certified : stack.Holds "Certificate" Topology.certificateId :=
          Stack.holds_of_mem distinct (r := .certificate (Topology.directCertificate domain))
            (by simp [all, published])
        refine ⟨by simp [Resource.links, Topology.directListener, Topology.listener, balancer], ?_⟩
        intro use listed
        rw [List.mem_singleton.mp listed]
        exact resolves_attr certified (List.mem_singleton_self _)
    · exact supports_of_registered records distinct all (listener ▸ listens) registered
    · exact ⟨by simp [Resource.links], List.forall_mem_singleton.mpr address⟩
  · rw [all] at member
    simp [Topology.after, not_mem_registered] at member

theorem closed_fronted {f : FrontedTopology} (made : (Topology.fronted f).before = .ok first)
    (records : planner.Records services) (listener : planner.listener = Topology.listenerId)
    (distinct : (Resource.names stack.resources).Nodup)
    (all : stack.resources = first ++ (planner.resources ++ (Topology.fronted f).after name))
    (given : ∀ use ∈ (Topology.fronted f).tokenUses, p.Resolves stack use) : p.Closed stack := by
  obtain ⟨balancer, listens⟩ := holds_listening made distinct all
  have address : p.Resolves stack _ := resolves_address made distinct all
  cases made
  have lookup : stack.Holds "PrefixListLookup" Topology.originListId :=
    Stack.holds_of_mem distinct
      (r := .addressListLookup ⟨Topology.originListId, Topology.cdnAddressList⟩)
      (by simp [all, Topology.frontedBefore])
  have origin : stack.Holds "VpcOrigin" Topology.originId :=
    Stack.holds_of_mem distinct (r := .vpcOrigin ⟨Topology.originId, Topology.loadBalancerId,
      "edge-alb-origin", Protocol.http.port, .httpOnly⟩)
      (by simp [all, Topology.after, Topology.frontedAfter])
  refine ⟨distinct, fun r member => ?_, fun set member => ?_⟩
  · rw [all] at member
    simp only [Topology.after, Topology.frontedBefore, Topology.frontedAfter, List.mem_append,
      List.mem_cons, List.not_mem_nil, or_false, Option.mem_toList, Option.map_eq_some_iff] at member
    rcases member with (rfl | rfl | rfl | rfl) | registered | (rfl | rfl) | ⟨_, _, rfl⟩
    · exact supports_of_none rfl rfl
    · exact supports_of_none rfl rfl
    · refine ⟨by simp [Resource.links, listens], ?_⟩
      simpa [Resource.tokenUses] using resolves_attr lookup (List.mem_singleton_self _)
    · exact ⟨by simp [Resource.links, Topology.listener, balancer],
        by simp [Resource.tokenUses, Topology.listener]⟩
    · exact supports_of_registered records distinct all (listener ▸ listens) registered
    · exact ⟨by simp [Resource.links, balancer], by simp [Resource.tokenUses]⟩
    · exact ⟨by simp [Resource.links, Topology.distribution, origin], given⟩
    · exact ⟨by simp [Resource.links], List.forall_mem_singleton.mpr address⟩
  · rw [all] at member
    simp [Topology.after, Topology.frontedBefore, Topology.frontedAfter, not_mem_registered] at member

/-! ### What the topology has been given -/

section Given

variable {s : Settings} {policy : Policy} {region : String}

theorem waits_for_secondary_iff {other : String} :
    other ∈ ((Topology.ofSettings s policy).filled name region first planner).dependsOn ↔
      Secondary.isRequired s policy = true ∧ other = Secondary.stackName := by
  rw [Topology.ofSettings]
  cases shape : Topology.Kind.ofSettings s with
  | direct =>
    have none : Secondary.isRequired s policy = false := by
      rw [Secondary.isRequired, shape]
      rfl
    simp [none, Topology.filled, Topology.waiting, Stack.empty, Stack.push, Stack.output]
  | fronted =>
    cases required : Secondary.isRequired s policy with
    | false => simp [Topology.filled, Topology.waiting, Stack.empty, Stack.push, Stack.output]
    | true =>
      simp [Topology.filled, Topology.waiting, Stack.dependOn, Stack.empty, Stack.push, Stack.output]

/-- A handle of the stack for the CDN leads there if that stack holds the resource and offers the
handle. -/
theorem resolves_handle (held : p.allStacks = stacksOf s policy first planner)
    (required : Secondary.isRequired s policy = true) {r : Resource}
    (member : r ∈ (Secondary.complete s policy).stack.resources) {key : String}
    (offered : (key, (Secondary.handle r.id).text) ∈ Secondary.outputs s policy) :
    p.Resolves ((Topology.ofSettings s policy).filled primaryName s.region first planner)
      ⟨(Secondary.handle r.id).exportedFrom Secondary.stackName, [(r.kind, "Arn")]⟩ :=
  ⟨r.kind, List.mem_singleton_self _, waits_for_secondary_iff.mpr ⟨required, rfl⟩, _,
    find?_secondary held required, Stack.holds_of_mem (Secondary.nodup_complete s policy) member, key, offered⟩

theorem resolves_given (held : p.allStacks = stacksOf s policy first planner) :
    ∀ use ∈ (Topology.ofSettings s policy).tokenUses,
      p.Resolves ((Topology.ofSettings s policy).filled primaryName s.region first planner) use := by
  intro use listed
  -- A direct topology is given nothing.
  have shape : Topology.Kind.ofSettings s = .fronted := by
    cases shape : Topology.Kind.ofSettings s with
    | fronted => rfl
    | direct =>
      rw [Topology.ofSettings, shape] at listed
      cases listed
  have tokens : use ∈ (Secondary.offer s policy).certificate.toList.map TokenUse.certificate ++
      (Secondary.offer s policy).firewall.toList.map .firewall := by
    rwa [Topology.ofSettings, shape] at listed
  rcases List.mem_append.mp tokens with certificate | firewall
  · simp only [Secondary.offer, List.mem_map, Option.mem_toList, Option.map_eq_some_iff] at certificate
    obtain ⟨_, ⟨zone, named, rfl⟩, rfl⟩ := certificate
    have required : Secondary.isRequired s policy = true :=
      (Secondary.isRequired_iff s policy).mpr
        ⟨shape, .inl (by simp [DomainSettings.isConfigured, named])⟩
    exact resolves_handle held required (Secondary.mem_resources.mpr (.inl ⟨zone, named, rfl⟩))
      (Secondary.mem_outputs.mpr (.inl ⟨zone, named, rfl⟩))
  · cases empty : policy.isEmpty with
    | true => simp [Secondary.offer, empty] at firewall
    | false =>
      have same : use = .firewall ((Secondary.handle Secondary.webAclId).exportedFrom
          Secondary.stackName) := by
        simpa [Secondary.offer, empty] using firewall
      have required : Secondary.isRequired s policy = true :=
        (Secondary.isRequired_iff s policy).mpr ⟨shape, .inr empty⟩
      rw [same]
      exact resolves_handle held required (Secondary.mem_resources.mpr (.inr ⟨empty, .inr rfl⟩))
        (Secondary.mem_outputs.mpr (.inr ⟨empty, rfl⟩))

end Given

/-! ### Target groups -/

theorem targetGroups_filled {t : Topology} (made : t.before = .ok first) (name region : String)
    (planner : Planner) :
    (t.filled name region first planner).targetGroups = planner.targetGroups := by
  have own : ∀ r, Topology.IsOwn r → Resource.targetGroup? r = none := by
    intro r other
    cases r with
    | targetGroup _ => exact absurd rfl other.1
    | _ => rfl
  rw [Stack.targetGroups, Topology.filterMap_filled made name region planner own]
  simp [Planner.resources, List.filterMap_append, List.filterMap_map, Function.comp_def,
    Planner.PlannedRule.resource, Resource.targetGroup?]

theorem targetGroups_complete (s : Settings) (policy : Policy) :
    (Secondary.complete s policy).stack.targetGroups = [] := by
  rw [Stack.targetGroups, List.filterMap_eq_nil_iff]
  intro r member
  rcases Secondary.mem_resources.mp member with ⟨_, _, rfl⟩ | ⟨_, ⟨_, _, rfl⟩ | rfl⟩
  · rfl
  · rfl
  · rfl

/-! ### Assembled plans -/

theorem closed_primary {s : Settings} {policy : Policy} {routes : List Route}
    (start : (Topology.ofSettings s policy).before = .ok first)
    (held : p.allStacks =
      stacksOf s policy first ((Topology.Kind.ofSettings s).planner.run routes))
    (topology : p.topology = Topology.ofSettings s policy) :
    p.Closed ((Topology.ofSettings s policy).filled primaryName s.region first
        ((Topology.Kind.ofSettings s).planner.run routes)) ∧
      p.Linked ((Topology.ofSettings s policy).filled primaryName s.region first
        ((Topology.Kind.ofSettings s).planner.run routes)) := by
  have records := (Topology.Kind.ofSettings s).records routes
  have given := resolves_given held
  have all := ((Topology.ofSettings s policy).filled_eq primaryName s.region first
    ((Topology.Kind.ofSettings s).planner.run routes)).2
  have listener := ((Topology.ofSettings s policy).given_planner routes).1
  have distinct := Topology.nodup_filled start primaryName s.region routes
  rw [Topology.kind_ofSettings] at listener distinct
  refine ⟨?_, fun other waited => ?_, fun output offered => ?_⟩
  · cases shape : Topology.ofSettings s policy with
    | direct d =>
      rw [shape] at start all distinct
      exact closed_direct start records listener distinct all
    | fronted f =>
      rw [shape] at start all distinct given
      exact closed_fronted start records listener distinct all given
  · obtain ⟨required, rfl⟩ := waits_for_secondary_iff.mp waited
    exact ⟨_, find?_secondary held required⟩
  · rw [(Topology.ofSettings s policy).outputs_filled, List.mem_singleton] at offered
    rw [offered, Offers, topology]
    rcases (Topology.ofSettings s policy).baseUrl_eq with domain | ⟨scheme, written⟩
    · exact .inl domain
    · refine .inr ⟨scheme, _, written, (Topology.ofSettings s policy).stack_address, _, ?_,
        resolves_address start distinct all⟩
      simp

theorem contents_secondary {s : Settings} {policy : Policy}
    (required : Secondary.isRequired s policy = true) :
    (Secondary.complete s policy).stack.resources ≠ [] ∧
    ((∃ c, .certificate c ∈ (Secondary.complete s policy).stack.resources) ↔
      s.domain.isConfigured = true) ∧
    ((∃ acl, .webAcl acl ∈ (Secondary.complete s policy).stack.resources) ↔
      policy.isEmpty = false) := by
  have certificate : (∃ c, .certificate c ∈ (Secondary.complete s policy).stack.resources) ↔
      s.domain.isConfigured = true := by
    simp [Secondary.mem_resources, DomainSettings.isConfigured, Option.isSome_iff_exists]
  have acl : (∃ acl, .webAcl acl ∈ (Secondary.complete s policy).stack.resources) ↔
      policy.isEmpty = false := by
    simp [Secondary.mem_resources]
  refine ⟨?_, certificate, acl⟩
  rcases ((Secondary.isRequired_iff s policy).mp required).2 with configured | filled
  · obtain ⟨_, member⟩ := certificate.mpr configured
    exact List.ne_nil_of_mem member
  · obtain ⟨_, member⟩ := acl.mpr filled
    exact List.ne_nil_of_mem member

/-- Nothing in an assembled plan refers to something that is not there. The plan lists exactly the
target groups of its stacks, and has a stack for the CDN in front of the application's exactly if
there is a certificate or a firewall to put into it. -/
theorem no_dangling_reference {s : Settings} {routes : List Route} {p : Plan}
    (ok : assemble s routes = .ok p) :
    (∀ stack ∈ p.allStacks, p.Closed stack ∧ p.Linked stack) ∧
    (∃ primary, p.primary? = some primary ∧ (Topology.baseUrlOutput, p.baseUrl) ∈ primary.outputs ∧
      ∀ use ∈ p.topology.tokenUses, p.Resolves primary use) ∧
    (p.allStacks.flatMap Stack.targetGroups).map (fun g => (g.service, g.id, g.port)) =
      p.targetGroups.map (fun b => (b.service, b.targetGroup, b.port)) ∧
    ∃ policy, s.policy = .ok policy ∧
      p.allStacks.map (·.name) = (if p.topology.kind = .fronted ∧
          (s.domain.isConfigured = true ∨ policy.isEmpty = false) then [Secondary.stackName]
        else []) ++ [primaryName] ∧
      ∀ stack ∈ p.allStacks, stack.name = Secondary.stackName → stack.resources ≠ [] ∧
        ((∃ c, .certificate c ∈ stack.resources) ↔ s.domain.isConfigured = true) ∧
        ((∃ acl, .webAcl acl ∈ stack.resources) ↔ policy.isEmpty = false) := by
  obtain ⟨_, _, policy, first, made, start, same⟩ := of_assemble ok
  have held := congrArg Plan.allStacks same
  have topology := congrArg Plan.topology same
  have bindings := congrArg Plan.targetGroups same
  have url := congrArg Plan.baseUrl same
  simp only at held topology bindings url
  have records := (Topology.Kind.ofSettings s).records routes
  have named := ((Topology.ofSettings s policy).filled_eq primaryName s.region first
    ((Topology.Kind.ofSettings s).planner.run routes)).1
  refine ⟨?_, ⟨_, primary?_eq held, ?_, ?_⟩, ?_, policy, made, ?_, ?_⟩
  · rw [held]
    intro stack member
    rcases List.mem_append.mp member with secondary | primary
    · split at secondary
      · rw [List.mem_singleton.mp secondary]
        exact ⟨closed_secondary p s policy, linked_secondary p s policy⟩
      · cases secondary
    · rw [List.mem_singleton.mp primary]
      exact closed_primary start held topology
  · rw [Topology.outputs_filled, url]
    exact List.mem_singleton_self _
  · rw [topology]
    exact resolves_given held
  · -- Target groups come from the routes alone, so they are those of the accepted services.
    have groups : p.allStacks.flatMap Stack.targetGroups =
        ((Topology.Kind.ofSettings s).planner.run routes).targetGroups := by
      rw [held, stacksOf, List.flatMap_append, List.flatMap_singleton, targetGroups_filled start]
      split
      · rw [List.flatMap_singleton, targetGroups_complete, List.nil_append]
      · rfl
    rw [groups, bindings, records.groups, List.map_map, List.map_map]
    refine List.map_congr_left fun service accepted => ?_
    obtain ⟨owner, port, _⟩ := records.answers service accepted
    simp only [Function.comp, Planner.targetGroup, owner, port]
  · rw [held, stacksOf, List.map_append, List.map_singleton, named, topology, Topology.kind_ofSettings]
    simp only [← Secondary.isRequired_iff]
    split
    · rfl
    · rfl
  · rw [held]
    intro stack member secondary
    rcases List.mem_append.mp member with first | primary
    · split at first
      · rename_i required
        rw [List.mem_singleton.mp first]
        exact contents_secondary required
      · cases first
    · rw [List.mem_singleton.mp primary, named] at secondary
      exact absurd secondary (by decide)

/-- Settings that need all that a plan can hold. -/
private def demanding : Settings :=
  { Settings.initial with
    access := ⟨some ["10.0.0.0/8"], some ["2001:db8::/32"], some ["DE"]⟩
    domain := ⟨some "example.org", none⟩ }

/-- With a domain and a policy, both stacks of the plan are closed. -/
theorem no_dangling_reference_demanding :
    ∃ p, assemble demanding Route.services = .ok p ∧
      p.allStacks.map (·.name) = ["EdgeGlobalStack", "EdgeStack"] ∧
      ∀ stack ∈ p.allStacks, p.Closed stack ∧ p.Linked stack := by
  have made : (assemble demanding Route.services).isOk = true := by decide +kernel
  cases outcome : assemble demanding Route.services with
  | error e =>
    rw [outcome] at made
    cases made
  | ok p =>
    obtain ⟨closed, _, _, policy, read, names, _⟩ := no_dangling_reference outcome
    refine ⟨p, rfl, ?_, closed⟩
    have fronted : p.topology.kind = .fronted := by
      obtain ⟨_, _, _, _, _, _, same⟩ := of_assemble outcome
      rw [congrArg Plan.topology same]
      exact Topology.kind_ofSettings demanding _
    rw [names, if_pos ⟨fronted, .inl rfl⟩]
    rfl

end Plan

end Perimeter
