import Perimeter.Proofs.Encoding.Parts
import Perimeter.Proofs.References

/-!
The document of a plan keeps all of it: two plans whose tokens have no points in their parts have
the same document only if they are the same (`Plan.toDocument_eq_iff`).
-/

namespace Perimeter

open Document (text texts natural optional fieldIf textsIf fieldIf_append_inj textsIf_append_inj)

/-! ### Resources -/

@[simp] theorem AccessLogs.toDocument_inj {a b : AccessLogs} : a.toDocument = b.toDocument ↔ a = b := by
  cases a
  cases b
  simp [toDocument]

@[simp] theorem DefaultAction.toDocument_inj {a b : DefaultAction} :
    a.toDocument = b.toDocument ↔ a = b := by
  cases a
  cases b
  simp [toDocument, UInt16.toNat_inj]

@[simp] theorem ResolvedCheck.toDocument_inj {a b : ResolvedCheck} :
    a.toDocument = b.toDocument ↔ a = b := by
  cases a
  cases b
  simp [toDocument, UInt64.toNat_inj, UInt32.toNat_inj]

/-- Tokens that are there or not, without points in their parts. -/
theorem Token.eq_of_option {a b : Option Token} (plain : ∀ t ∈ a, t.Plain) (plain' : ∀ t ∈ b, t.Plain)
    (same : a.map toDocument = b.map toDocument) : a = b := by
  cases a with
  | none =>
    cases b with
    | none => rfl
    | some u => cases same
  | some t =>
    cases b with
    | none => cases same
    | some u =>
      exact congrArg some (toDocument_injective (plain t rfl) (plain' u rfl) (Option.some.inj same))

/-- Tokens for a certificate and for a firewall, as distributions and topologies hold them. -/
theorem TokenUse.plain_of_pair {certificate firewall : Option Token}
    (plain : ∀ use ∈ certificate.toList.map TokenUse.certificate ++ firewall.toList.map TokenUse.firewall,
      use.token.Plain) : (∀ t ∈ certificate, t.Plain) ∧ ∀ t ∈ firewall, t.Plain := by
  constructor
  · intro t given
    have listed := List.mem_map_of_mem (f := TokenUse.certificate) (Option.mem_toList.mpr given)
    exact plain _ (List.mem_append_left _ listed)
  · intro t given
    have listed := List.mem_map_of_mem (f := TokenUse.firewall) (Option.mem_toList.mpr given)
    exact plain _ (List.mem_append_right _ listed)

theorem Peer.eq_of_toDocument {a b : Peer} (plain : ∀ token, a = .addressList token → token.Plain)
    (plain' : ∀ token, b = .addressList token → token.Plain) (same : a.toDocument = b.toDocument) :
    a = b := by
  cases a with
  | ipv4 range =>
    cases b with
    | ipv4 range' => simpa [toDocument] using same
    | ipv6 _ => simp [toDocument] at same
    | addressList _ => simp [toDocument] at same
  | ipv6 range =>
    cases b with
    | ipv4 _ => simp [toDocument] at same
    | ipv6 range' => simpa [toDocument] using same
    | addressList _ => simp [toDocument] at same
  | addressList token =>
    cases b with
    | ipv4 _ => simp [toDocument] at same
    | ipv6 _ => simp [toDocument] at same
    | addressList token' =>
      simp only [toDocument, Document.record.injEq, List.cons.injEq, Prod.mk.injEq, true_and,
        and_true] at same
      rw [Token.toDocument_injective (plain token rfl) (plain' token' rfl) same]

namespace Resource

/-- The tokens of a resource have no points in their parts. -/
def Plain (r : Resource) : Prop := ∀ use ∈ r.tokenUses, use.token.Plain

theorem fields_loadBalancer {a b : LoadBalancer}
    (same : (loadBalancer a).fields = (loadBalancer b).fields) : a = b := by
  cases a
  cases b
  simpa [fields, UInt64.toNat_inj] using same

theorem fields_targetGroup {a b : TargetGroup}
    (same : (targetGroup a).fields = (targetGroup b).fields) : a = b := by
  cases a
  cases b
  simpa [fields, UInt64.toNat_inj, UInt16.toNat_inj] using same

theorem fields_listenerRule {a b : ListenerRule}
    (same : (listenerRule a).fields = (listenerRule b).fields) : a = b := by
  cases a
  cases b
  simpa [fields, UInt32.toNat_inj] using same

theorem fields_addressListLookup {a b : AddressListLookup}
    (same : (addressListLookup a).fields = (addressListLookup b).fields) : a = b := by
  cases a
  cases b
  simpa [fields] using same

theorem fields_vpcOrigin {a b : VpcOrigin} (same : (vpcOrigin a).fields = (vpcOrigin b).fields) :
    a = b := by
  cases a with | mk id loadBalancer name port protocol =>
  cases b with | mk id' loadBalancer' name' port' protocol' =>
  cases protocol
  cases protocol'
  simpa [fields, UInt16.toNat_inj] using same

theorem fields_ipSet {a b : IpSet} (same : (ipSet a).fields = (ipSet b).fields) : a = b := by
  obtain ⟨id, family, scope, ranges⟩ := a
  obtain ⟨id', family', scope', ranges'⟩ := b
  simp only [fields, List.cons.injEq, Prod.mk.injEq, true_and, and_true, Ident.toDocument_inj,
    Document.text.injEq, Family.label_inj, Scope.label_inj, Document.texts_inj] at same
  obtain ⟨rfl, rfl, rfl, members⟩ := same
  rw [eq_of_map_eq members fun _ _ _ _ => Cidr.text_injective]

theorem fields_webAcl {a b : WebAcl} (same : (webAcl a).fields = (webAcl b).fields) : a = b := by
  obtain ⟨id, scope, action, metric, rules⟩ := a
  obtain ⟨id', scope', action', metric', rules'⟩ := b
  simp only [fields, List.cons.injEq, Prod.mk.injEq, true_and, and_true, Ident.toDocument_inj,
    Document.text.injEq, Decision.label_inj, Scope.label_inj, Document.list.injEq] at same
  obtain ⟨rfl, rfl, rfl, rfl, listed⟩ := same
  rw [eq_of_map_eq listed fun _ _ _ _ => FirewallRule.toDocument_inj.mp]

theorem fields_certificate {a b : Certificate}
    (same : (certificate a).fields = (certificate b).fields) : a = b := by
  obtain ⟨id, domain, others, zone⟩ := a
  obtain ⟨id', domain', others', zone'⟩ := b
  simp only [fields, List.cons_append, List.nil_append, List.cons.injEq, Prod.mk.injEq, true_and,
    Ident.toDocument_inj, Document.text.injEq] at same
  obtain ⟨rfl, rfl, behind⟩ := same
  rw [textsIf_append_inj (by simp) (by simp)] at behind
  obtain ⟨rfl, behind⟩ := behind
  simp only [List.cons.injEq, Prod.mk.injEq, true_and, and_true, Document.text.injEq] at behind
  rw [behind]

theorem plain_listener {r : Listener} (plain : (listener r).Plain) : ∀ t ∈ r.certificates, t.Plain :=
  fun t member => plain (.certificate t) (List.mem_map_of_mem member)

theorem fields_listener {a b : Listener} (plain : (listener a).Plain) (plain' : (listener b).Plain)
    (same : (listener a).fields = (listener b).fields) : a = b := by
  have clean := plain_listener plain
  have clean' := plain_listener plain'
  obtain ⟨id, balancer, protocol, port, certificates, action, isOpen⟩ := a
  obtain ⟨id', balancer', protocol', port', certificates', action', isOpen'⟩ := b
  simp only [fields, List.cons_append, List.nil_append, List.cons.injEq, Prod.mk.injEq, true_and,
    Ident.toDocument_inj, Document.text.injEq, Protocol.label_inj, Document.natural_inj,
    UInt16.toNat_inj] at same
  obtain ⟨rfl, rfl, rfl, rfl, behind⟩ := same
  rw [textsIf_append_inj (by simp) (by simp)] at behind
  obtain ⟨tokens, behind⟩ := behind
  simp only [List.cons.injEq, Prod.mk.injEq, true_and, and_true, DefaultAction.toDocument_inj,
    Document.bool.injEq] at behind
  obtain ⟨rfl, rfl⟩ := behind
  rw [eq_of_map_eq tokens fun token member token' member' =>
    Token.text_injective (clean token member) (clean' token' member')]

theorem plain_ingressRule {r : IngressRule} (plain : (ingressRule r).Plain) (t : Token)
    (listed : r.peer = .addressList t) : t.Plain := by
  refine plain ⟨t, [("PrefixListLookup", "PrefixListId")]⟩ ?_
  rw [tokenUses, listed]
  exact List.mem_singleton_self _

theorem fields_ingressRule {a b : IngressRule} (plain : (ingressRule a).Plain)
    (plain' : (ingressRule b).Plain) (same : (ingressRule a).fields = (ingressRule b).fields) :
    a = b := by
  have clean := plain_ingressRule plain
  have clean' := plain_ingressRule plain'
  obtain ⟨id, listener, peer, port⟩ := a
  obtain ⟨id', listener', peer', port'⟩ := b
  simp only [fields, List.cons.injEq, Prod.mk.injEq, true_and, and_true, Ident.toDocument_inj,
    Document.natural_inj, UInt16.toNat_inj] at same
  obtain ⟨rfl, rfl, peers, rfl⟩ := same
  have samePeer : peer = peer' := Peer.eq_of_toDocument clean clean' peers
  rw [samePeer]

theorem fields_aliasRecord {a b : AliasRecord} (plain : (aliasRecord a).Plain)
    (plain' : (aliasRecord b).Plain) (same : (aliasRecord a).fields = (aliasRecord b).fields) :
    a = b := by
  have clean : a.target.Plain := plain (.address a.target) (List.mem_singleton_self _)
  have clean' : b.target.Plain := plain' (.address b.target) (List.mem_singleton_self _)
  obtain ⟨id, zone, record, target⟩ := a
  obtain ⟨id', zone', record', target'⟩ := b
  simp only [fields, List.cons.injEq, Prod.mk.injEq, true_and, and_true, Ident.toDocument_inj,
    Document.text.injEq] at same
  obtain ⟨rfl, rfl, rfl, targets⟩ := same
  have sameTarget : target = target' := Token.toDocument_injective clean clean' targets
  rw [sameTarget]

theorem fields_distribution {a b : Distribution} (plain : (distribution a).Plain)
    (plain' : (distribution b).Plain) (same : (distribution a).fields = (distribution b).fields) :
    a = b := by
  obtain ⟨cleanCertificate, cleanAcl⟩ := TokenUse.plain_of_pair plain
  obtain ⟨cleanCertificate', cleanAcl'⟩ := TokenUse.plain_of_pair plain'
  obtain ⟨id, comment, origin, names, certificate, acl, viewer, compress, cache, request, methods, logs⟩ := a
  obtain ⟨id', comment', origin', names', certificate', acl', viewer', compress', cache', request', methods',
    logs'⟩ := b
  cases viewer
  cases viewer'
  have absent : ∀ (key : String) (v : Option Document) (k : String), k ≠ key →
      k ∉ (fieldIf key v).map (·.1) := fun key v k differs member =>
    differs (Document.keys_fieldIf key v k member)
  simp only [fields, List.cons_append, List.nil_append, List.append_assoc, List.cons.injEq,
    Prod.mk.injEq, true_and, Ident.toDocument_inj, Document.text.injEq] at same
  obtain ⟨rfl, rfl, rfl, behind⟩ := same
  rw [textsIf_append_inj (by simp [absent]) (by simp [absent]),
    fieldIf_append_inj (by simp [absent]) (by simp [absent]), fieldIf_append_inj (by simp) (by simp)]
    at behind
  obtain ⟨rfl, certificates, acls, behind⟩ := behind
  simp only [List.cons.injEq, Prod.mk.injEq, true_and, and_true, Document.text.injEq,
    Document.bool.injEq, AccessLogs.toDocument_inj] at behind
  obtain ⟨rfl, rfl, rfl, rfl, rfl⟩ := behind
  have sameCertificate : certificate = certificate' :=
    Token.eq_of_option cleanCertificate cleanCertificate' certificates
  have sameAcl : acl = acl' := Token.eq_of_option cleanAcl cleanAcl' acls
  rw [sameCertificate, sameAcl]

/-- The kind in front of the fields tells which ones they are. -/
theorem toDocument_injective {a b : Resource} (plain : a.Plain) (plain' : b.Plain)
    (same : a.toDocument = b.toDocument) : a = b := by
  simp only [toDocument, Document.record.injEq, List.cons.injEq, Prod.mk.injEq, true_and,
    Document.text.injEq] at same
  obtain ⟨kinds, fields⟩ := same
  cases a with
  | loadBalancer r =>
    cases b with
    | loadBalancer r' => rw [fields_loadBalancer fields]
    | _ => simp [kind] at kinds
  | listener r =>
    cases b with
    | listener r' => rw [fields_listener plain plain' fields]
    | _ => simp [kind] at kinds
  | targetGroup r =>
    cases b with
    | targetGroup r' => rw [fields_targetGroup fields]
    | _ => simp [kind] at kinds
  | listenerRule r =>
    cases b with
    | listenerRule r' => rw [fields_listenerRule fields]
    | _ => simp [kind] at kinds
  | ingressRule r =>
    cases b with
    | ingressRule r' => rw [fields_ingressRule plain plain' fields]
    | _ => simp [kind] at kinds
  | addressListLookup r =>
    cases b with
    | addressListLookup r' => rw [fields_addressListLookup fields]
    | _ => simp [kind] at kinds
  | certificate r =>
    cases b with
    | certificate r' => rw [fields_certificate fields]
    | _ => simp [kind] at kinds
  | ipSet r =>
    cases b with
    | ipSet r' => rw [fields_ipSet fields]
    | _ => simp [kind] at kinds
  | webAcl r =>
    cases b with
    | webAcl r' => rw [fields_webAcl fields]
    | _ => simp [kind] at kinds
  | vpcOrigin r =>
    cases b with
    | vpcOrigin r' => rw [fields_vpcOrigin fields]
    | _ => simp [kind] at kinds
  | distribution r =>
    cases b with
    | distribution r' => rw [fields_distribution plain plain' fields]
    | _ => simp [kind] at kinds
  | aliasRecord r =>
    cases b with
    | aliasRecord r' => rw [fields_aliasRecord plain plain' fields]
    | _ => simp [kind] at kinds

end Resource

/-! ### Stacks -/

namespace Stack

theorem outputs_of_outputFields {a b : Stack} (same : a.outputFields = b.outputFields) :
    a.outputs = b.outputs := by
  have pairs : ∀ {xs ys : List (String × String)},
      (xs.map fun entry => (entry.1, text entry.2)) = (ys.map fun entry => (entry.1, text entry.2)) →
        xs = ys := by
    intro xs ys both
    refine eq_of_map_eq both fun x _ y _ here => ?_
    simp only [Prod.mk.injEq, Document.text.injEq] at here
    exact Prod.ext here.1 here.2
  unfold outputFields at same
  cases left : a.outputs with
  | nil =>
    cases right : b.outputs with
    | nil => rfl
    | cons _ _ => simp [left, right] at same
  | cons x xs =>
    cases right : b.outputs with
    | nil => simp [left, right] at same
    | cons y ys =>
      simp only [left, right, List.isEmpty_cons, Bool.false_eq_true, if_false, List.cons.injEq,
        Prod.mk.injEq, true_and, and_true, Document.record.injEq] at same
      exact pairs same

theorem toDocument_injective {a b : Stack} (plain : ∀ r ∈ a.resources, r.Plain)
    (plain' : ∀ r ∈ b.resources, r.Plain) (same : a.toDocument = b.toDocument) : a = b := by
  have keys : ∀ (v : Document) (s : Stack),
      "depends_on" ∉ (("resources", v) :: s.outputFields).map (·.1) := by
    intro v s
    unfold outputFields
    split
    · simp
    · simp
  unfold toDocument at same
  rw [Document.record.injEq, List.append_assoc, List.append_assoc, List.append_assoc, List.append_assoc]
    at same
  simp only [List.cons_append, List.nil_append, List.cons.injEq, Prod.mk.injEq, true_and,
    Document.text.injEq] at same
  obtain ⟨names, regions, behind⟩ := same
  rw [textsIf_append_inj (keys _ a) (keys _ b)] at behind
  obtain ⟨dependencies, behind⟩ := behind
  simp only [List.cons.injEq, Prod.mk.injEq, true_and, Document.list.injEq] at behind
  obtain ⟨listed, offered⟩ := behind
  have resources := eq_of_map_eq listed fun r member r' member' =>
    Resource.toDocument_injective (plain r member) (plain' r' member')
  have values := outputs_of_outputFields offered
  cases a
  cases b
  simp only at names regions dependencies resources values
  rw [names, regions, dependencies, resources, values]

end Stack

/-! ### Topologies -/

@[simp] theorem CustomDomain.toDocument_inj {a b : CustomDomain} :
    a.toDocument = b.toDocument ↔ a = b := by
  cases a
  cases b
  simp [toDocument]

@[simp] theorem LoadBalancerSettings.toDocument_inj {a b : LoadBalancerSettings} :
    a.toDocument = b.toDocument ↔ a = b := by
  cases a
  cases b
  simp [toDocument, UInt64.toNat_inj]

namespace Topology

theorem domain_of_optional {a b : Option CustomDomain}
    (same : optional CustomDomain.toDocument a = optional CustomDomain.toDocument b) : a = b :=
  Document.eq_of_optional (by simp [CustomDomain.toDocument])
    (fun _ _ _ _ => CustomDomain.toDocument_inj.mp) same

theorem token_of_optional {a b : Option Token} (plain : ∀ t ∈ a, t.Plain) (plain' : ∀ t ∈ b, t.Plain)
    (same : optional Token.toDocument a = optional Token.toDocument b) : a = b :=
  Document.eq_of_optional (by simp [Token.toDocument])
    (fun t given u given' => Token.toDocument_injective (plain t given) (plain' u given')) same

/-- The tokens of a topology have no points in their parts. -/
def Plain (t : Topology) : Prop := ∀ use ∈ t.tokenUses, use.token.Plain

theorem fields_direct {a b : DirectTopology} (same : a.fields = b.fields) : a = b := by
  obtain ⟨scheme, subnets, ingress, domain, balancer⟩ := a
  obtain ⟨scheme', subnets', ingress', domain', balancer'⟩ := b
  simp only [DirectTopology.fields, List.cons.injEq, Prod.mk.injEq, true_and, and_true,
    Document.text.injEq, Scheme.label_inj, Subnets.label_inj, Document.texts_inj,
    LoadBalancerSettings.toDocument_inj] at same
  obtain ⟨rfl, rfl, ranges, domains, rfl⟩ := same
  rw [eq_of_map_eq ranges fun _ _ _ _ => Cidr.text_injective, domain_of_optional domains]

theorem fields_fronted {a b : FrontedTopology} (plain : (fronted a).Plain) (plain' : (fronted b).Plain)
    (same : a.fields = b.fields) : a = b := by
  obtain ⟨cleanCertificate, cleanFirewall⟩ := TokenUse.plain_of_pair plain
  obtain ⟨cleanCertificate', cleanFirewall'⟩ := TokenUse.plain_of_pair plain'
  obtain ⟨domain, certificate, firewall, producer, balancer⟩ := a
  obtain ⟨domain', certificate', firewall', producer', balancer'⟩ := b
  simp only [FrontedTopology.fields, List.cons.injEq, Prod.mk.injEq, true_and, and_true,
    LoadBalancerSettings.toDocument_inj] at same
  obtain ⟨domains, certificates, firewalls, producers, rfl⟩ := same
  have sameProducer : producer = producer' :=
    Document.eq_of_optional (by simp) (fun _ _ _ _ => Document.text.inj) producers
  have sameCertificate : certificate = certificate' :=
    token_of_optional cleanCertificate cleanCertificate' certificates
  have sameFirewall : firewall = firewall' :=
    token_of_optional cleanFirewall cleanFirewall' firewalls
  rw [domain_of_optional domains, sameCertificate, sameFirewall, sameProducer]

theorem toDocument_injective {a b : Topology} (plain : a.Plain) (plain' : b.Plain)
    (same : a.toDocument = b.toDocument) : a = b := by
  simp only [toDocument, Document.record.injEq, List.cons.injEq, Prod.mk.injEq, true_and,
    Document.text.injEq, Kind.label_inj] at same
  obtain ⟨kinds, fields⟩ := same
  cases a with
  | direct d =>
    cases b with
    | direct d' => rw [fields_direct fields]
    | fronted f => cases kinds
  | fronted f =>
    cases b with
    | direct d => cases kinds
    | fronted f' => rw [fields_fronted plain plain' fields]

end Topology

/-! ### Plans -/

@[simp] theorem TargetBinding.toDocument_inj {a b : TargetBinding} :
    a.toDocument = b.toDocument ↔ a = b := by
  cases a
  cases b
  simp [toDocument, UInt16.toNat_inj]

namespace Plan

/-- The tokens in a plan. -/
def tokens (p : Plan) : List Token :=
  p.topology.tokenUses.map (·.token) ++
    p.allStacks.flatMap fun s => s.resources.flatMap fun r => r.tokenUses.map (·.token)

/-- A plan loses nothing in its document. Whatever two plans hold, they have the same document only if
they are the same, provided that no stack's name and no attribute in their tokens has a point. -/
theorem toDocument_eq_iff {p q : Plan} (plain : ∀ token ∈ p.tokens, token.Plain)
    (plain' : ∀ token ∈ q.tokens, token.Plain) : p.toDocument = q.toDocument ↔ p = q := by
  have parts : ∀ {p : Plan}, (∀ token ∈ p.tokens, token.Plain) → p.topology.Plain ∧
      ∀ s ∈ p.allStacks, ∀ r ∈ s.resources, r.Plain := by
    intro p clean
    constructor
    · intro use member
      exact clean _ (List.mem_append_left _ (List.mem_map_of_mem member))
    · intro s held r listed use member
      refine clean _ (List.mem_append_right _ (List.mem_flatMap.mpr ⟨s, held, ?_⟩))
      exact List.mem_flatMap.mpr ⟨r, listed, List.mem_map_of_mem member⟩
  constructor
  · intro same
    obtain ⟨topology, resources⟩ := parts plain
    obtain ⟨topology', resources'⟩ := parts plain'
    obtain ⟨shape, held, url, groups⟩ := p
    obtain ⟨shape', held', url', groups'⟩ := q
    simp only [toDocument, Document.record.injEq, List.cons.injEq, Prod.mk.injEq, true_and, and_true,
      Document.text.injEq, Document.list.injEq] at same
    obtain ⟨shapes, listed, rfl, bindings⟩ := same
    have sameShape : shape = shape' := Topology.toDocument_injective topology topology' shapes
    have sameStacks : held = held' := eq_of_map_eq listed fun s member s' member' =>
      Stack.toDocument_injective (resources s member) (resources' s' member')
    have sameGroups := eq_of_map_eq bindings fun _ _ _ _ => TargetBinding.toDocument_inj.mp
    rw [sameShape, sameStacks, sameGroups]
  · rintro rfl
    rfl

/-- A plan with a firewall of one rule. -/
private def firewalled (statement : Expression) : Plan where
  topology := .fronted ⟨none, none, some ⟨some "EdgeGlobalStack", Secondary.webAclId, "Arn"⟩,
    some "EdgeGlobalStack", .initial⟩
  allStacks := [⟨"EdgeGlobalStack", "us-east-1", [],
    [.webAcl ⟨Secondary.webAclId, .cdn, .block, "CdnWebAcl", [⟨"Allow", 0, statement, .allow, "Allow"⟩]⟩],
    [("FirewallRef", "$\x7bCdnWebAcl.Arn\x7d")]⟩]
  baseUrl := "https://app.example.org"
  targetGroups := []

/-- A condition and the conjunction of it alone mean the same and are told apart. -/
theorem toDocument_eq_iff_firewalled :
    (firewalled (.geo [⟨3, 4⟩])).toDocument ≠ (firewalled (.all [.geo [⟨3, 4⟩]])).toDocument := by
  intro same
  have equal := (toDocument_eq_iff (by decide) (by decide)).mp same
  simp [firewalled] at equal

end Plan

end Perimeter
