import Perimeter.Proofs.Plan
import Perimeter.Route.Services

/-!
Who gets in. A direct plan admits a request by the ingress rules of its load balancer, a fronted
plan by the access control list of its distribution, if it has one (`Plan.Admits`). Either way an
assembled plan admits what the lists of the settings admit, and nothing else reaches the load
balancer (`Plan.admits_exactly_the_settings`).
-/

namespace Perimeter

/-! ### Parts of a stack -/

namespace Stack

/-- The ingress rules of a stack, in order. -/
def ingressRules (s : Stack) : List IngressRule :=
  s.resources.filterMap fun
    | .ingressRule r => some r
    | _ => none

/-- The distributions of a stack, in order. -/
def distributions (s : Stack) : List Distribution :=
  s.resources.filterMap fun
    | .distribution r => some r
    | _ => none

/-- The address sets of a stack, in order. -/
def ipSets (s : Stack) : List IpSet :=
  s.resources.filterMap fun
    | .ipSet r => some r
    | _ => none

end Stack

/-- What an access control list does with a request: the action of the first rule by ascending
priority that holds of it, else the default action. -/
def WebAcl.decide (acl : WebAcl) (sets : List IpSet) (address : Address) (country : Option Country) :
    Decision :=
  match (acl.rules.mergeSort fun a b => a.priority ≤ b.priority).find? fun rule =>
      rule.statement.holds sets address country with
  | some rule => rule.action
  | none => acl.defaultAction

/-- With rules that all let through and a default that does not, the order of the rules does not
matter. -/
theorem WebAcl.decide_eq_allow_iff {acl : WebAcl} (blocking : acl.defaultAction = .block)
    (allowing : ∀ rule ∈ acl.rules, rule.action = .allow) (sets : List IpSet) (address : Address)
    (country : Option Country) :
    acl.decide sets address country = .allow ↔
      ∃ rule ∈ acl.rules, rule.statement.holds sets address country = true := by
  have sorted : acl.decide sets address country =
      (⟨sets, acl.rules.mergeSort fun a b => a.priority ≤ b.priority⟩ : Firewall).evaluate address
        country := by
    rw [WebAcl.decide, blocking]
    rfl
  rw [sorted, Firewall.evaluate_eq_allow_iff]
  · simp only [List.mem_mergeSort]
  · intro rule member
    exact allowing rule (List.mem_mergeSort.mp member)

namespace Plan

/-- The access control list whose reference a token is, with its stack. -/
def webAcl? (p : Plan) (token : Token) : Option (Stack × WebAcl) :=
  match token.stack.bind p.find? with
  | none => none
  | some stack =>
    match stack.find? token.resource.text with
    | some (.webAcl acl) => if token.property = "Arn" then some (stack, acl) else none
    | _ => none

theorem webAcl?_of_find {p : Plan} {name : String} {stack : Stack} (owner : p.find? name = some stack)
    {id : LogicalId} {acl : WebAcl} (found : stack.find? id.text = some (.webAcl acl)) :
    p.webAcl? ((Token.attr id "Arn").exportedFrom name) = some (stack, acl) := by
  simp only [webAcl?, Token.exportedFrom, Token.attr, Option.bind_some, owner, found, if_true]

/-- Whether a plan lets a request through. -/
def Admits (p : Plan) (address : Address) (country : Option Country) : Prop :=
  ∃ stack, p.primary? = some stack ∧
    match p.topology.kind with
    | .direct => ∃ rule ∈ stack.ingressRules, ∃ range,
        rule.peer = .ofCidr range ∧ range.contains address = true
    | .fronted => ∃ distribution, stack.distributions = [distribution] ∧
        (distribution.webAcl = none ∨ ∃ token owner acl, distribution.webAcl = some token ∧
          p.webAcl? token = some (owner, acl) ∧ owner.name = Secondary.stackName ∧
          acl.decide owner.ipSets address country = .allow)

/-! ### The stacks of an assembled plan -/

/-- The reference that the distribution carries leads to the firewall of the policy. -/
theorem webAcl?_eq {p : Plan} {s : Settings} {policy : Policy} {first : List Resource}
    {planner : Planner} (held : p.allStacks = stacksOf s policy first planner)
    (required : Secondary.isRequired s policy = true) (filled : policy.isEmpty = false) :
    p.webAcl? ((Secondary.handle Secondary.webAclId).exportedFrom Secondary.stackName) =
      some ((Secondary.complete s policy).stack, ⟨Secondary.webAclId, .cdn, .block,
        Secondary.webAclId.text, Firewall.rulesOf .cdn policy⟩) := by
  have member : Resource.webAcl ⟨Secondary.webAclId, .cdn, .block, Secondary.webAclId.text,
      Firewall.rulesOf .cdn policy⟩ ∈ (Secondary.complete s policy).stack.resources :=
    Secondary.mem_resources.mpr (.inr ⟨filled, .inr rfl⟩)
  have found := Stack.find?_of_nodup (Secondary.nodup_complete s policy) member
  exact webAcl?_of_find (find?_secondary held required) found

/-! ### Direct plans -/

/-- The ingress rules of a direct topology are those for its ranges, in order. -/
theorem ingressRules_direct {d : DirectTopology} {first : List Resource}
    (made : (Topology.direct d).before = .ok first) (name region : String) (planner : Planner) :
    Topology.Numbered (Topology.directListener d.domain).port 0 d.ingress
      ((Topology.direct d).filled name region first planner).ingressRules := by
  obtain ⟨rules, numbered, same⟩ := Topology.before_direct made
  have all : ((Topology.direct d).filled name region first planner).ingressRules = rules := by
    unfold Stack.ingressRules
    rw [Topology.filterMap_direct _ _ _ (fun _ => rfl) (fun _ => rfl) (fun _ => rfl), same]
    simp
  rw [all]
  exact numbered

private theorem ofCidr_injective {a b : Cidr} (same : Peer.ofCidr a = Peer.ofCidr b) : a = b := by
  cases a with
  | v4 _ _ =>
    cases b with
    | v4 _ _ => exact Peer.ipv4.inj same
    | v6 _ _ => cases same
  | v6 _ _ =>
    cases b with
    | v4 _ _ => cases same
    | v6 _ _ => exact Peer.ipv6.inj same

/-- Ingress rules for ranges admit what the ranges do. -/
theorem exists_peer_iff {rules : List IngressRule} {ranges : List Cidr}
    (peers : rules.map (·.peer) = ranges.map .ofCidr) (address : Address) :
    (∃ rule ∈ rules, ∃ range, rule.peer = .ofCidr range ∧ range.contains address = true) ↔
      ∃ range ∈ ranges, range.contains address = true := by
  constructor
  · rintro ⟨rule, member, range, same, inside⟩
    have listed : rule.peer ∈ ranges.map .ofCidr := by
      rw [← peers]
      exact List.mem_map_of_mem member
    obtain ⟨range', member', same'⟩ := List.mem_map.mp listed
    cases ofCidr_injective (same'.trans same)
    exact ⟨range, member', inside⟩
  · rintro ⟨range, member, inside⟩
    have listed : Peer.ofCidr range ∈ rules.map (·.peer) := by
      rw [peers]
      exact List.mem_map_of_mem member
    obtain ⟨rule, member', same⟩ := List.mem_map.mp listed
    exact ⟨rule, member', range, same, inside⟩

/-! ### Fronted plans -/

/-- A fronted topology admits the CDN alone. -/
theorem ingressRules_fronted (f : FrontedTopology) (name region : String) (planner : Planner) :
    ((Topology.fronted f).filled name region (Topology.frontedBefore f) planner).ingressRules =
      [⟨Topology.cdnIngressId, Topology.listenerId,
        .addressList (.attr Topology.originListId "PrefixListId"),
        (Topology.listener .http []).port⟩] :=
  Topology.filterMap_fronted _ _ _ (fun _ => rfl) (fun _ => rfl) (fun _ => rfl) f

theorem distributions_fronted (f : FrontedTopology) (name region : String) (planner : Planner) :
    ((Topology.fronted f).filled name region (Topology.frontedBefore f) planner).distributions =
      [Topology.distribution f name] :=
  Topology.filterMap_fronted _ _ _ (fun _ => rfl) (fun _ => rfl) (fun _ => rfl) f

/-- The address list that is admitted is that of the CDN. -/
theorem find?_originList (f : FrontedTopology) (name region : String) (planner : Planner) :
    ((Topology.fronted f).filled name region (Topology.frontedBefore f) planner).find?
        Topology.originListId.text =
      some (.addressListLookup ⟨Topology.originListId, Topology.cdnAddressList⟩) := by
  unfold Stack.find?
  rw [((Topology.fronted f).filled_eq name region _ planner).2]
  rfl

theorem ipSets_complete (s : Settings) {policy : Policy} (filled : policy.isEmpty = false) :
    (Secondary.complete s policy).stack.ipSets = Firewall.setsOf .cdn policy := by
  unfold Stack.ipSets Secondary.complete Secondary.certificates
  rw [Secondary.firewalls_eq filled, List.filterMap_append, List.filterMap_append, List.filterMap_map]
  cases s.domain.name with
  | none => simp
  | some zone => simp

/-- The firewall in front of a fronted plan, or its absence, admits what the policy does. -/
private theorem admits_fronted {s : Settings} (shape : Topology.Kind.ofSettings s = .fronted) {p : Plan}
    {policy : Policy} {first : List Resource} {planner : Planner}
    (held : p.allStacks = stacksOf s policy first planner) (address : Address)
    (country : Option Country) :
    ((Secondary.offer s policy).firewall = none ∨ ∃ token owner acl,
        (Secondary.offer s policy).firewall = some token ∧ p.webAcl? token = some (owner, acl) ∧
        owner.name = Secondary.stackName ∧ acl.decide owner.ipSets address country = .allow) ↔
      policy.Admits address country := by
  unfold Secondary.offer
  cases empty : policy.isEmpty with
  | true =>
    obtain ⟨noV4, noV6, noCountries⟩ := policy.isEmpty_iff.mp empty
    exact ⟨fun _ => ⟨.inl ⟨noV4, noV6⟩, .inl noCountries⟩, fun _ => .inl rfl⟩
  | false =>
    have required : Secondary.isRequired s policy = true :=
      (Secondary.isRequired_iff s policy).mpr ⟨shape, .inr empty⟩
    have found := webAcl?_eq held required empty
    have decided : ∀ acl : WebAcl, acl.defaultAction = .block → acl.rules = Firewall.rulesOf .cdn policy →
        (acl.decide (Secondary.complete s policy).stack.ipSets address country = .allow ↔
          policy.Admits address country) := by
      intro acl blocking rules
      rw [WebAcl.decide_eq_allow_iff blocking, ipSets_complete s empty, rules,
        Firewall.exists_rule_iff, empty]
      · exact and_iff_right rfl
      · intro rule member
        rw [rules] at member
        exact Firewall.action_of_mem_rulesOf member
    constructor
    · rintro (impossible | ⟨_, owner, acl, same, resolved, _, allowed⟩)
      · cases impossible
      · cases same
        rw [found] at resolved
        cases resolved
        exact (decided _ rfl rfl).mp allowed
    · intro admitted
      exact .inr ⟨_, _, _, rfl, found, rfl, (decided _ rfl rfl).mpr admitted⟩

/-- An assembled plan lets through exactly what the lists of the settings admit. A direct plan takes
the ranges of the policy and nothing else; a fronted plan takes the addresses of the CDN alone. -/
theorem admits_exactly_the_settings {s : Settings} {routes : List Route} {p : Plan}
    (ok : assemble s routes = .ok p) :
    (∀ address country, p.Admits address country ↔ s.Admits address country) ∧
    ∃ stack, p.primary? = some stack ∧
      (p.topology.kind = .direct → ∃ policy, s.policy = .ok policy ∧
        stack.ingressRules.map (·.peer) = policy.ingressRanges.map .ofCidr) ∧
      (p.topology.kind = .fronted → ∃ rule lookup, stack.ingressRules = [rule] ∧
        rule.peer = .addressList (.attr lookup.id "PrefixListId") ∧
        stack.find? lookup.id.text = some (.addressListLookup lookup) ∧
        lookup.name = Topology.cdnAddressList) := by
  obtain ⟨valid, _, policy, first, made, start, same⟩ := of_assemble ok
  obtain ⟨_, sound, _⟩ := s.validate_eq_ok_iff.mp valid
  have held := congrArg Plan.allStacks same
  have chosen := congrArg Plan.topology same
  simp only at held chosen
  unfold Admits
  simp only [primary?_eq held, Option.some.injEq, exists_eq_left', chosen, Topology.kind_ofSettings]
  cases shape : Topology.Kind.ofSettings s with
  | direct =>
    have direct : Topology.ofSettings s policy = .direct (Topology.selectDirect s policy) := by
      rw [Topology.ofSettings, shape]
    have noCdn : s.network.useCdn = false := by
      simpa [Topology.Kind.ofSettings] using shape
    have noCountries := Settings.countries_eq_nil sound noCdn
    rw [direct] at start ⊢
    have peers := (ingressRules_direct start primaryName s.region
      (Topology.Kind.direct.planner.run routes)).peers
    rw [Topology.ingress_selectDirect] at peers
    refine ⟨?_, fun _ => ⟨policy, made, peers⟩, ?_⟩
    · intro address country
      rw [exists_peer_iff peers, policy.exists_ingressRange_iff, Settings.addresses_policy made]
      exact (and_iff_left (.inl noCountries)).symm
    · intro other
      cases other
  | fronted =>
    obtain ⟨f, fronted, firewall⟩ : ∃ f, Topology.ofSettings s policy = .fronted f ∧
        f.firewall = (Secondary.offer s policy).firewall := by
      rw [Topology.ofSettings, shape]
      exact ⟨_, rfl, rfl⟩
    rw [fronted] at start ⊢
    cases start
    refine ⟨?_, ?_, ?_⟩
    · intro address country
      rw [distributions_fronted, ← Settings.admits_policy made,
        ← admits_fronted shape held address country, ← firewall]
      constructor
      · rintro ⟨_, same, rest⟩
        cases same
        exact rest
      · intro rest
        exact ⟨_, rfl, rest⟩
    · intro other
      cases other
    · intro _
      exact ⟨_, ⟨Topology.originListId, Topology.cdnAddressList⟩, ingressRules_fronted f _ _ _, rfl,
        find?_originList f _ _ _, rfl⟩

/-- Settings that admit one range, from one country only. -/
private def guarded : Settings :=
  { Settings.initial with access := ⟨some ["10.0.0.0/8"], none, some ["DE"]⟩ }

/-- Behind the CDN, an address of the range gets in from the country and not from an unknown one. -/
theorem admits_exactly_the_settings_guarded :
    ∃ p, assemble guarded Route.services = .ok p ∧ p.Admits (.v4 0x0A010203) (some ⟨3, 4⟩) ∧
      ¬ p.Admits (.v4 0x0A010203) none := by
  have made : (assemble guarded Route.services).isOk = true := by decide +kernel
  cases outcome : assemble guarded Route.services with
  | error e =>
    rw [outcome] at made
    cases made
  | ok p =>
    have who := (admits_exactly_the_settings outcome).1
    refine ⟨p, rfl, (who _ _).mpr ⟨.inr ?_, .inr ?_⟩, ?_⟩
    · exact ⟨"10.0.0.0/8", by decide, .v4 0x0A000000 8, by decide +kernel, by decide +kernel⟩
    · exact ⟨"DE", by decide, ⟨3, 4⟩, by decide +kernel, rfl⟩
    · rintro unknown
      rcases ((who _ _).mp unknown).2 with none | ⟨_, _, _, _, impossible⟩
      · cases none
      · cases impossible

end Plan

end Perimeter
