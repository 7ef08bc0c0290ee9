import Perimeter.Listener.Planner
import Perimeter.Settings.Basic
import Perimeter.Stack

/-!
The two shapes of a deployment. In the direct shape clients reach the load balancer, which enforces
the policy by its ingress rules; in the fronted shape they reach a CDN, which carries certificate
and firewall, and the load balancer admits the CDN alone. A shape is chosen from the settings
(`Topology.select`) and then built into a stack together with the routes (`Topology.build`).
-/

namespace Perimeter

/-- The name under which the application is published: `record.zone`. -/
structure CustomDomain where
  zone : String
  record : String
deriving DecidableEq, Repr

def CustomDomain.hostName (d : CustomDomain) : String := d.record ++ "." ++ d.zone

/-- What the stack for objects of the CDN offers to the application's stack. -/
structure Binding where
  producer : String
  certificate : Option Token
  firewall : Option Token
deriving DecidableEq

structure DirectTopology where
  scheme : Scheme
  subnets : Subnets
  /-- The ranges that the listener admits. -/
  ingress : List Cidr
  /-- With a domain, the load balancer serves encrypted connections. -/
  domain : Option CustomDomain
  loadBalancer : LoadBalancerSettings
deriving DecidableEq

structure FrontedTopology where
  domain : Option CustomDomain
  certificate : Option Token
  firewall : Option Token
  /-- The stack that offers certificate and firewall. -/
  producer : Option String
  loadBalancer : LoadBalancerSettings
deriving DecidableEq

inductive Topology where
  | direct (t : DirectTopology)
  | fronted (t : FrontedTopology)
deriving DecidableEq

/-- A stack into which a topology has been built. -/
structure BuiltTopology where
  stack : Stack
  baseUrl : String
  targetGroups : List TargetBinding

namespace Topology

inductive Kind where
  | direct
  | fronted
deriving DecidableEq, Repr

/-- The word for a shape in a plan. -/
def Kind.label : Kind → String
  | direct => "direct"
  | fronted => "fronted"

/-- The shape that the settings ask for. -/
def Kind.ofSettings (s : Settings) : Kind :=
  if s.network.useCdn then fronted else direct

/-- The name under which the settings publish the application. -/
def customDomain? (s : Settings) : Option CustomDomain :=
  s.domain.name.map fun zone => ⟨zone, s.domain.effectiveSub⟩

/-- What a fronted topology lacks. -/
inductive Lack where
  | certificate (domain : CustomDomain)
  | firewall
deriving DecidableEq, Repr

/-- The failure to choose a topology that lacks something. -/
def Lack.error : Lack → Error
  | certificate domain =>
    .crossRegion ("custom domain '" ++ domain.hostName ++
      "' needs a certificate from the CDN control region, but none was produced")
  | firewall =>
    .crossRegion
      "access policy needs a firewall from the CDN control region, but none was produced"

/-- What is lacking for a domain and a policy. -/
def lack? (domain : Option CustomDomain) (policy : Policy) (certificate firewall : Option Token) :
    Option Lack :=
  match domain, certificate with
  | some domain, none => some (.certificate domain)
  | _, _ => if !policy.isEmpty && firewall.isNone then some .firewall else none

/-- The direct topology of settings with the given policy. -/
def selectDirect (s : Settings) (policy : Policy) : DirectTopology :=
  if s.network.isInternal then
    ⟨.internal, .hiddenAndIsolated, policy.ingressRanges, customDomain? s, s.loadBalancer⟩
  else ⟨.internetFacing, .exposed, policy.ingressRanges, customDomain? s, s.loadBalancer⟩

/-- The topology that the settings ask for, with what the other stack offers. -/
def select (s : Settings) (binding : Option Binding) : Except Error Topology := do
  let policy ← s.policy
  match Kind.ofSettings s with
  | .direct => return .direct (selectDirect s policy)
  | .fronted =>
    let certificate := binding.bind (·.certificate)
    let firewall := binding.bind (·.firewall)
    if let some lack := lack? (customDomain? s) policy certificate firewall then
      throw lack.error
    return .fronted
      ⟨customDomain? s, certificate, firewall, binding.map (·.producer), s.loadBalancer⟩

def kind : Topology → Kind
  | direct _ => .direct
  | fronted _ => .fronted

/-- The health checks of a shape, where services ask for nothing. -/
def profile : Topology → HealthProfile
  | direct _ => .direct
  | fronted _ => .fronted

/-- What is appended to the name of a service to name its target group. A target group belongs to
one load balancer, so the two shapes name theirs apart. -/
def suffix : Topology → String
  | direct _ => "TargetGroup"
  | fronted _ => "TargetGroupInternal"

def domain? : Topology → Option CustomDomain
  | direct t => t.domain
  | fronted t => t.domain

def loadBalancerId : LogicalId := .literal "Alb"

def listenerId : LogicalId := .literal "AlbListener"

def certificateId : LogicalId := .literal "AlbCertificate"

def distributionId : LogicalId := .literal "Distribution"

def originId : LogicalId := .literal "AlbVpcOrigin"

def originListId : LogicalId := .literal "CdnOriginPrefixList"

def cdnIngressId : LogicalId := .literal "AlbIngressCdn"

def directAliasId : LogicalId := .literal "AlbAliasRecord"

def frontedAliasId : LogicalId := .literal "DistributionAliasRecord"

/-- The address list of the CDN's own addresses. -/
def cdnAddressList : String := "com.amazonaws.global.cloudfront.origin-facing"

/-- The status of a request that no rule matches. -/
def unmatchedStatus : UInt16 := 400

/-- The output under which a stack offers the address of the application. -/
def baseUrlOutput : String := "BaseUrl"

/-- Where clients reach the application. -/
def baseUrl (t : Topology) : String :=
  match t, t.domain? with
  | _, some domain => "https://" ++ domain.hostName
  | direct _, none => "http://" ++ (Token.attr loadBalancerId "DnsName").text
  | fronted _, none => "https://" ++ (Token.attr distributionId "DomainName").text

/-- The load balancer of either shape. -/
def loadBalancer (s : LoadBalancerSettings) (scheme : Scheme) (subnets : Subnets) :
    Perimeter.LoadBalancer :=
  ⟨loadBalancerId, scheme, subnets, s.idleTimeout, ⟨s.logBucket, "edge-alb"⟩⟩

/-- The listener of either shape. -/
def listener (protocol : Protocol) (certificates : List Token) : Perimeter.Listener :=
  ⟨listenerId, loadBalancerId, protocol, protocol.port, certificates,
    .fixedResponse unmatchedStatus, false⟩

/-- The planner of the listener of a topology, with nothing registered. -/
def planner (t : Topology) : Planner := .empty listenerId t.profile t.suffix

/-- The ingress rules for ranges, numbered from `start` on. -/
def ingressRules (port : UInt16) : (start : Nat) → List Cidr → Except Error (List Resource)
  | _, [] => .ok []
  | start, range :: ranges => do
    let id ← Ident.ofText .logical ("AlbIngress" ++ toString start)
    let rest ← ingressRules port (start + 1) ranges
    return .ingressRule ⟨id, listenerId, .ofCidr range, port⟩ :: rest

/-- Adds a resource if there is one. -/
def addOptional (stack : Stack) : Option Resource → Except Error Stack
  | none => .ok stack
  | some r => stack.add r

/-- The certificate of the listener of a direct topology with a domain. -/
def directCertificate (domain : CustomDomain) : Certificate :=
  ⟨certificateId, domain.hostName, [], domain.zone⟩

/-- The listener of a direct topology. -/
def directListener (domain : Option CustomDomain) : Perimeter.Listener :=
  match domain with
  | some _ => listener .https [.attr certificateId "Arn"]
  | none => listener .http []

/-- Builds a direct topology. -/
def buildDirect (t : DirectTopology) (planner : Planner) (routes : List Route) (baseUrl : String)
    (stack : Stack) : Except Error BuiltTopology := do
  let stack ← stack.add (.loadBalancer (loadBalancer t.loadBalancer t.scheme t.subnets))
  let stack ← addOptional stack (t.domain.map fun domain => .certificate (directCertificate domain))
  let listener := directListener t.domain
  let stack ← stack.addAll (← ingressRules listener.port 0 t.ingress)
  let stack ← stack.add (.listener listener)
  let (targetGroups, planner) ← planner.registerAll routes
  let stack ← stack.addAll planner.resources
  let stack ← addOptional stack (t.domain.map fun domain =>
    .aliasRecord ⟨directAliasId, domain.zone, domain.record, .attr loadBalancerId "DnsName"⟩)
  return ⟨stack.output baseUrlOutput baseUrl, baseUrl, targetGroups⟩

/-- The distribution of a fronted topology. -/
def distribution (t : FrontedTopology) (stackName : String) : Perimeter.Distribution where
  id := distributionId
  comment := stackName ++ " edge distribution"
  origin := originId
  domainNames := t.domain.toList.map CustomDomain.hostName
  certificate := t.certificate
  webAcl := t.firewall
  viewerProtocol := .redirectToHttps
  compress := true
  cachePolicy := "USE_ORIGIN_CACHE_CONTROL_HEADERS_QUERY_STRINGS"
  originRequestPolicy := "ALL_VIEWER"
  allowedMethods := "ALLOW_ALL"
  accessLogs := ⟨t.loadBalancer.logBucket, "edge-cdn/"⟩

/-- The resources of a fronted topology in front of the routes. -/
def frontedBefore (t : FrontedTopology) : List Resource := [
  .loadBalancer (loadBalancer t.loadBalancer .internal .hidden),
  .addressListLookup ⟨originListId, cdnAddressList⟩,
  .ingressRule ⟨cdnIngressId, listenerId, .addressList (.attr originListId "PrefixListId"),
    (listener .http []).port⟩,
  .listener (listener .http [])]

/-- The resources of a fronted topology behind the routes. -/
def frontedAfter (t : FrontedTopology) (stackName : String) : List Resource := [
  .vpcOrigin ⟨originId, loadBalancerId, "edge-alb-origin", Protocol.http.port, .httpOnly⟩,
  .distribution (distribution t stackName)]

/-- Builds a fronted topology. -/
def buildFronted (t : FrontedTopology) (planner : Planner) (routes : List Route) (baseUrl : String)
    (stack : Stack) : Except Error BuiltTopology := do
  let stack := match t.producer with
    | some producer => stack.dependOn producer
    | none => stack
  let stack ← stack.addAll (frontedBefore t)
  let (targetGroups, planner) ← planner.registerAll routes
  let stack ← stack.addAll planner.resources
  let stack ← stack.addAll (frontedAfter t stack.name)
  let stack ← addOptional stack (t.domain.map fun domain =>
    .aliasRecord ⟨frontedAliasId, domain.zone, domain.record, .attr distributionId "DomainName"⟩)
  return ⟨stack.output baseUrlOutput baseUrl, baseUrl, targetGroups⟩

/-- Builds a topology with its routes, in order, into a stack. -/
def build (t : Topology) (stack : Stack) (routes : List Route) : Except Error BuiltTopology :=
  match t with
  | direct d => buildDirect d t.planner routes t.baseUrl stack
  | fronted f => buildFronted f t.planner routes t.baseUrl stack

end Topology

end Perimeter
