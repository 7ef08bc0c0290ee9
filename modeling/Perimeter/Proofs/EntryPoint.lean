import Perimeter.Proofs.Certificate
import Perimeter.Proofs.References

/-!
The public entry point. Its address, its host name, protocol and ports are worked out in several
places from the same settings; in an assembled plan they agree (`Plan.entry_point_coherent`).
-/

namespace Perimeter

/-! ### What agrees -/

namespace Stack

def loadBalancers (s : Stack) : List LoadBalancer :=
  s.resources.filterMap fun
    | .loadBalancer r => some r
    | _ => none

def vpcOrigins (s : Stack) : List VpcOrigin :=
  s.resources.filterMap fun
    | .vpcOrigin r => some r
    | _ => none

def aliasRecords (s : Stack) : List AliasRecord :=
  s.resources.filterMap fun
    | .aliasRecord r => some r
    | _ => none

theorem of_mem_aliasRecords {s : Stack} {record : AliasRecord} (member : record ∈ s.aliasRecords) :
    .aliasRecord record ∈ s.resources := by
  obtain ⟨r, listed, same⟩ := List.mem_filterMap.mp member
  cases r with
  | aliasRecord _ =>
    cases same
    exact listed
  | _ => cases same

end Stack

/-- What clients of a shape without a domain write in front of the address. -/
def Topology.Kind.scheme : Kind → String
  | direct => "http://"
  | fronted => "https://"

namespace Plan

/-- A token is the address of the resource at which clients arrive. -/
structure IsEntry (p : Plan) (primary : Stack) (token : Token) : Prop where
  here : token.stack = none
  property : token.property = p.topology.kind.entry.2
  held : primary.Holds p.topology.kind.entry.1 token.resource

/-- Clients reach a plan under a host name, which the one alias record gives to the entry, or else by
the address of the entry itself. -/
def ReachedBy (p : Plan) (primary : Stack) : (host : Option String) → Prop
  | some host => p.baseUrl = "https://" ++ host ∧
      ∃ record, p.allStacks.flatMap Stack.aliasRecords = [record] ∧
        .aliasRecord record ∈ primary.resources ∧ record.record ++ "." ++ record.zone = host ∧
        p.IsEntry primary record.target
  | none => p.allStacks.flatMap Stack.aliasRecords = [] ∧
      ∃ token, p.IsEntry primary token ∧ p.baseUrl = p.topology.kind.scheme ++ token.text

def IsSecure (url : String) : Prop := ∃ rest, url = "https://" ++ rest

/-- Clients reach the listener themselves. -/
structure ListensInFront (p : Plan) (primary : Stack) (listener : Listener) : Prop where
  secure : listener.protocol = .https ∧ listener.port = 443 ∧
    (∃ token, listener.certificates = [token]) ↔ IsSecure p.baseUrl
  plain : ¬ IsSecure p.baseUrl →
    listener.protocol = .http ∧ listener.port = 80 ∧ listener.certificates = []
  ingress : ∀ rule ∈ primary.ingressRules, rule.port = listener.port

/-- The CDN reaches the listener in place of clients. -/
def ListensBehind (s : Settings) (primary : Stack) (listener : Listener) : Prop :=
  ∃ rule origin distribution, primary.ingressRules = [rule] ∧ primary.vpcOrigins = [origin] ∧
    primary.distributions = [distribution] ∧ rule.port = listener.port ∧
    origin.httpPort = listener.port ∧ distribution.domainNames = s.domain.hostName.toList ∧
    distribution.certificate.isSome = s.domain.isConfigured

/-- All that is known about the entry point of a plan agrees. -/
structure Coherent (s : Settings) (p : Plan) (primary : Stack) (loadBalancer : LoadBalancer)
    (listener : Listener) : Prop where
  found : p.primary? = some primary
  offered : primary.outputs.lookup Topology.baseUrlOutput = some p.baseUrl
  reached : p.ReachedBy primary s.domain.hostName
  loadBalancers : p.allStacks.flatMap Stack.loadBalancers = [loadBalancer]
  listeners : p.allStacks.flatMap Stack.listeners = [listener]
  listens : match p.topology.kind with
    | .direct => p.ListensInFront primary listener
    | .fronted => ListensBehind s primary listener
  /-- Without encryption, a load balancer that faces the internet is reported. -/
  warned : (p.events s).count .exposedWithoutTls =
    if loadBalancer.scheme = .internetFacing ∧ listener.protocol = .http then 1 else 0

end Plan

/-! ### The stack of the application -/

namespace Topology

variable {first : List Resource} (name region : String) (planner : Planner)

/-- A topology makes its host name, if it has one, a name of its address. -/
theorem aliasRecords_filled {t : Topology} (made : t.before = .ok first) :
    ∃ id, (t.filled name region first planner).aliasRecords =
      (t.domain?.map fun domain => ⟨id, domain.zone, domain.record, t.address⟩).toList := by
  unfold Stack.aliasRecords
  rw [filterMap_around _ _ _ _ _ (fun _ => rfl) (fun _ => rfl)]
  cases t with
  | direct d =>
    obtain ⟨rules, _, rfl⟩ := before_direct made
    refine ⟨directAliasId, ?_⟩
    rw [after, domain?]
    cases d.domain with
    | none => simp
    | some domain => simp [address]
  | fronted f =>
    cases made
    refine ⟨frontedAliasId, ?_⟩
    rw [after, domain?]
    cases f.domain with
    | none => rfl
    | some domain => rfl

theorem loadBalancers_direct {d : DirectTopology} (made : (direct d).before = .ok first) :
    ((direct d).filled name region first planner).loadBalancers =
      [loadBalancer d.loadBalancer d.scheme d.subnets] := by
  obtain ⟨rules, _, rfl⟩ := before_direct made
  unfold Stack.loadBalancers
  rw [filterMap_direct _ _ _ (fun _ => rfl) (fun _ => rfl) (fun _ => rfl)]
  cases d.domain with
  | none => simp
  | some domain => simp

theorem loadBalancers_fronted (f : FrontedTopology) :
    ((fronted f).filled name region (frontedBefore f) planner).loadBalancers =
      [loadBalancer f.loadBalancer .internal .hidden] :=
  filterMap_fronted _ _ _ (fun _ => rfl) (fun _ => rfl) (fun _ => rfl) f

theorem listeners_fronted (f : FrontedTopology) :
    ((fronted f).filled name region (frontedBefore f) planner).listeners = [listener .http []] :=
  filterMap_fronted _ _ _ (fun _ => rfl) (fun _ => rfl) (fun _ => rfl) f

theorem vpcOrigins_fronted (f : FrontedTopology) :
    ((fronted f).filled name region (frontedBefore f) planner).vpcOrigins =
      [⟨originId, loadBalancerId, "edge-alb-origin", Protocol.http.port, .httpOnly⟩] :=
  filterMap_fronted _ _ _ (fun _ => rfl) (fun _ => rfl) (fun _ => rfl) f

theorem map_hostName_customDomain? (s : Settings) :
    (customDomain? s).map CustomDomain.hostName = s.domain.hostName := by
  unfold customDomain? DomainSettings.hostName
  rw [Option.map_map]
  rfl

end Topology

namespace Plan

/-! ### Secure addresses -/

theorem isSecure_https (rest : String) : IsSecure ("https://" ++ rest) := ⟨rest, rfl⟩

/-- The fifth characters differ. -/
theorem not_isSecure_http (rest : String) : ¬ IsSecure ("http://" ++ rest) := by
  rintro ⟨rest', same⟩
  have letters := congrArg (fun url : String => url.toList[4]?) same
  simp at letters

/-- A direct topology without a domain is the only one that is not reached securely. -/
theorem isSecure_baseUrl_direct (d : DirectTopology) :
    IsSecure (Topology.direct d).baseUrl ↔ d.domain ≠ none := by
  have known : (Topology.direct d).domain? = d.domain := rfl
  unfold Topology.baseUrl
  rw [known]
  cases d.domain with
  | none =>
    constructor
    · intro secure
      exact absurd secure (not_isSecure_http _)
    · intro impossible
      exact absurd rfl impossible
  | some domain =>
    constructor
    · intro _ impossible
      cases impossible
    · intro _
      exact isSecure_https _

/-! ### The stacks of a plan -/

section Stacks

variable {p : Plan} {s : Settings} {policy : Policy} {first : List Resource} {planner : Planner}
  (held : p.allStacks = stacksOf s policy first planner)

include held

/-- The stack for the CDN holds a certificate and a firewall with its sets only. -/
theorem flatMap_stacks {α : Type} {f : Resource → Option α} (certificates : ∀ r, f (.certificate r) = none)
    (sets : ∀ r, f (.ipSet r) = none) (acls : ∀ r, f (.webAcl r) = none) :
    (p.allStacks.flatMap fun stack => stack.resources.filterMap f) =
      ((Topology.ofSettings s policy).filled primaryName s.region first planner).resources.filterMap
        f := by
  have none_secondary : (Secondary.complete s policy).stack.resources.filterMap f = [] := by
    rw [List.filterMap_eq_nil_iff]
    intro r member
    rcases Secondary.mem_resources.mp member with ⟨_, _, rfl⟩ | ⟨_, ⟨_, _, rfl⟩ | rfl⟩
    · exact certificates _
    · exact sets _
    · exact acls _
  rw [held, stacksOf, List.flatMap_append, List.flatMap_singleton]
  cases Secondary.isRequired s policy with
  | true => simp [none_secondary]
  | false => simp

end Stacks

/-! ### Agreement -/

variable {s : Settings} {policy : Policy} {routes : List Route} {p : Plan} {first : List Resource}

/-- The address of a topology is that of the resource at which clients arrive. -/
theorem isEntry_address (start : (Topology.ofSettings s policy).before = .ok first)
    (chosen : p.topology = Topology.ofSettings s policy) (routes : List Route) :
    p.IsEntry ((Topology.ofSettings s policy).filled primaryName s.region first
      ((Topology.Kind.ofSettings s).planner.run routes)) (Topology.ofSettings s policy).address := by
  have distinct := Topology.nodup_filled start primaryName s.region routes
  rw [Topology.kind_ofSettings] at distinct
  have all := ((Topology.ofSettings s policy).filled_eq primaryName s.region first
    ((Topology.Kind.ofSettings s).planner.run routes)).2
  refine ⟨Topology.stack_address _, ?_, ?_⟩
  · rw [chosen]
    cases Topology.ofSettings s policy with
    | direct d => rfl
    | fronted f => rfl
  · rw [chosen]
    exact holds_address start distinct all

theorem reachedBy_hostName (start : (Topology.ofSettings s policy).before = .ok first)
    (chosen : p.topology = Topology.ofSettings s policy)
    (held : p.allStacks = stacksOf s policy first ((Topology.Kind.ofSettings s).planner.run routes))
    (url : p.baseUrl = (Topology.ofSettings s policy).baseUrl) :
    p.ReachedBy ((Topology.ofSettings s policy).filled primaryName s.region first
      ((Topology.Kind.ofSettings s).planner.run routes)) s.domain.hostName := by
  have entry := isEntry_address start chosen routes
  have aliases : p.allStacks.flatMap Stack.aliasRecords = _ :=
    flatMap_stacks held (fun _ => rfl) (fun _ => rfl) (fun _ => rfl)
  obtain ⟨id, record⟩ := Topology.aliasRecords_filled primaryName s.region
    ((Topology.Kind.ofSettings s).planner.run routes) start
  rw [← Topology.map_hostName_customDomain?, ← Topology.domain?_ofSettings s policy]
  have listed : p.allStacks.flatMap Stack.aliasRecords = _ := aliases.trans record
  unfold Topology.baseUrl at url
  cases named : (Topology.ofSettings s policy).domain? with
  | some domain =>
    rw [named] at listed record url
    refine ⟨url, _, listed, Stack.of_mem_aliasRecords ?_, rfl, entry⟩
    rw [record]
    exact List.mem_singleton_self _
  | none =>
    rw [named] at listed url
    refine ⟨listed, _, entry, ?_⟩
    rw [url, chosen]
    cases Topology.ofSettings s policy with
    | direct d => rfl
    | fronted f => rfl

/-- The listener of a direct topology speaks as its address says. -/
theorem listensInFront_direct {d : DirectTopology} (start : (Topology.direct d).before = .ok first)
    (url : p.baseUrl = (Topology.direct d).baseUrl) (name region : String) (planner : Planner) :
    p.ListensInFront ((Topology.direct d).filled name region first planner)
      (Topology.directListener d.domain) := by
  have secure := isSecure_baseUrl_direct d
  rw [← url] at secure
  refine ⟨?_, ?_, fun rule member =>
    ((ingressRules_direct start name region planner).target rule member).2⟩
  · rw [secure]
    cases d.domain with
    | none => simp [Topology.directListener, Topology.listener]
    | some domain => simp [Topology.directListener, Topology.listener, Protocol.port]
  · rw [secure]
    cases d.domain with
    | none => simp [Topology.directListener, Topology.listener, Protocol.port]
    | some domain => simp

/-- The distribution of a fronted topology takes over what the listener leaves out. -/
theorem listensBehind_fronted {f : FrontedTopology} (named : f.domain = Topology.customDomain? s)
    (certificate : f.certificate = (Secondary.offer s policy).certificate) (name region : String)
    (planner : Planner) :
    ListensBehind s ((Topology.fronted f).filled name region (Topology.frontedBefore f) planner)
      (Topology.listener .http []) := by
  refine ⟨_, _, _, ingressRules_fronted .., Topology.vpcOrigins_fronted .., distributions_fronted ..,
    rfl, rfl, ?_, ?_⟩
  · simp only [Topology.distribution, named, ← Topology.map_hostName_customDomain?]
    cases Topology.customDomain? s with
    | none => rfl
    | some domain => rfl
  · simp [Topology.distribution, certificate, Secondary.offer, DomainSettings.isConfigured]

/-! ### Warnings -/

/-- Nothing but the settings leads to the warning. -/
theorem count_exposed_events (s : Settings) (p : Plan) :
    (p.events s).count .exposedWithoutTls = s.warnings.count .exposedWithoutTls := by
  have rules : ∀ count, (ruleEvents count).count .exposedWithoutTls = 0 := by
    intro count
    rw [List.count_eq_zero, ruleEvents]
    simp
  have secondary : ∀ policy, (Secondary.events s policy).count .exposedWithoutTls = 0 := by
    intro policy
    rw [List.count_eq_zero, Secondary.events]
    split
    · split
      · simp [Secondary.compileEvents]
      · simp
    · simp
  unfold events
  cases s.policy with
  | error e => simp [rules]
  | ok policy => simp [rules, secondary]

theorem count_exposed {s : Settings} (valid : s.validate = .ok ()) (p : Plan) :
    (p.events s).count .exposedWithoutTls = if s.isExposed then 1 else 0 := by
  rw [count_exposed_events, Settings.warnings, valid]
  cases s.isExposed with
  | true => rfl
  | false => rfl

/-- A direct topology faces the internet with a plain listener exactly if the settings say so. -/
theorem isExposed_iff_direct {s : Settings} (noCdn : s.network.useCdn = false) (policy : Policy) :
    s.isExposed = true ↔ (Topology.selectDirect s policy).scheme = .internetFacing ∧
      (Topology.directListener (Topology.selectDirect s policy).domain).protocol = .http := by
  unfold Settings.isExposed DomainSettings.isConfigured Topology.selectDirect Topology.customDomain?
  rw [noCdn]
  cases s.network.isInternal with
  | true => simp
  | false =>
    cases s.domain.name with
    | none => simp [Topology.directListener, Topology.listener]
    | some zone => simp [Topology.directListener, Topology.listener]

/-- The public entry point of an assembled plan is coherent. The plan's address is what its primary
stack offers; it is the host name of the settings, which one alias record gives to the load balancer
or to the distribution, or else the address of that resource. Protocol, ports and certificates go
with it, and the settings are reported as exposed without encryption exactly if the plan's load
balancer faces the internet with a plain listener. -/
theorem entry_point_coherent {s : Settings} {routes : List Route} {p : Plan}
    (ok : assemble s routes = .ok p) :
    ∃ primary loadBalancer listener, Coherent s p primary loadBalancer listener := by
  obtain ⟨valid, _, policy, first, _, start, same⟩ := of_assemble ok
  have chosen := congrArg Plan.topology same
  have held := congrArg Plan.allStacks same
  have url := congrArg Plan.baseUrl same
  simp only at chosen held url
  have found := primary?_eq held
  have reached := reachedBy_hostName start chosen held url
  have offered : ((Topology.ofSettings s policy).filled primaryName s.region first
      ((Topology.Kind.ofSettings s).planner.run routes)).outputs.lookup Topology.baseUrlOutput =
        some p.baseUrl := by
    rw [Topology.outputs_filled, url]
    exact List.lookup_cons_self
  have balancers : p.allStacks.flatMap Stack.loadBalancers = _ :=
    flatMap_stacks held (fun _ => rfl) (fun _ => rfl) (fun _ => rfl)
  have listeners : p.allStacks.flatMap Stack.listeners = _ :=
    flatMap_stacks held (fun _ => rfl) (fun _ => rfl) (fun _ => rfl)
  have warned := count_exposed valid p
  cases shape : Topology.Kind.ofSettings s with
  | direct =>
    have direct : Topology.ofSettings s policy = .direct (Topology.selectDirect s policy) := by
      rw [Topology.ofSettings, shape]
    have noCdn : s.network.useCdn = false := by simpa [Topology.Kind.ofSettings] using shape
    rw [direct] at start chosen url found reached offered balancers listeners
    refine ⟨_, _, _, found, offered, reached, balancers.trans (Topology.loadBalancers_direct _ _ _ start),
      listeners.trans (Topology.listeners_direct start _ _ _), ?_, ?_⟩
    · rw [chosen]
      exact listensInFront_direct start url primaryName s.region _
    · rw [warned]
      exact if_congr (isExposed_iff_direct noCdn policy) rfl rfl
  | fronted =>
    have fronted : ∃ f, Topology.ofSettings s policy = .fronted f ∧
        f.domain = Topology.customDomain? s ∧
        f.certificate = (Secondary.offer s policy).certificate := by
      rw [Topology.ofSettings, shape]
      exact ⟨_, rfl, rfl, rfl⟩
    obtain ⟨f, fronted, named, certificate⟩ := fronted
    have cdn : s.network.useCdn = true := by simpa [Topology.Kind.ofSettings] using shape
    rw [fronted] at start chosen found reached offered balancers listeners
    cases start
    refine ⟨_, _, _, found, offered, reached, balancers.trans (Topology.loadBalancers_fronted ..),
      listeners.trans (Topology.listeners_fronted ..), ?_, ?_⟩
    · rw [chosen]
      exact listensBehind_fronted named certificate primaryName s.region _
    · rw [warned, Settings.isExposed, cdn]
      simp [Topology.loadBalancer]

/-- Settings that put the load balancer on the internet and publish no name. -/
private def exposed : Settings :=
  { Settings.initial with network := { NetworkSettings.initial with useCdn := false } }

theorem entry_point_coherent_exposed :
    ∃ p primary loadBalancer listener, assemble exposed Route.services = .ok p ∧
      Coherent exposed p primary loadBalancer listener := by
  obtain ⟨p, outcome⟩ : ∃ p, assemble exposed Route.services = .ok p :=
    Outcome.exists_ok_of_isOk (by decide +kernel)
  obtain ⟨primary, loadBalancer, listener, coherent⟩ := entry_point_coherent outcome
  exact ⟨p, primary, loadBalancer, listener, outcome, coherent⟩

end Plan

end Perimeter
