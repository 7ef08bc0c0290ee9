import Perimeter.Firewall.Basic
import Perimeter.Resource.Token
import Perimeter.Route.Basic

/-!
Resources: what the provisioning engine is asked to create. They describe a wanted state; values
that exist only afterwards are tokens.
-/

namespace Perimeter

/-- Whether a load balancer has a public address. -/
inductive Scheme where
  | internetFacing
  | internal
deriving DecidableEq, Repr

/-- The subnets that a load balancer is placed in. -/
inductive Subnets where
  | exposed
  | hidden
  | hiddenAndIsolated
deriving DecidableEq, Repr

/-- The protocol of a listener or of a target group. -/
inductive Protocol where
  | http
  | https
deriving DecidableEq, Repr

/-- The port on which a protocol is served. -/
def Protocol.port : Protocol → UInt16
  | http => 80
  | https => 443

/-- Where access logs are stored. -/
structure AccessLogs where
  bucket : String
  folder : String
deriving DecidableEq, Repr

structure LoadBalancer where
  id : LogicalId
  scheme : Scheme
  subnets : Subnets
  /-- Seconds after which an idle connection is closed. -/
  idleTimeout : UInt64
  accessLogs : AccessLogs
deriving DecidableEq

/-- What a listener does with a request that no rule matches. -/
inductive DefaultAction where
  | fixedResponse (status : UInt16)
deriving DecidableEq, Repr

structure Listener where
  id : LogicalId
  loadBalancer : LogicalId
  protocol : Protocol
  port : UInt16
  certificates : List Token
  defaultAction : DefaultAction
  /-- Whether the listener admits everybody by itself; ingress rules admit otherwise. -/
  isOpen : Bool
deriving DecidableEq

/-- The running instances of a service, as a listener sees them. -/
structure TargetGroup where
  id : LogicalId
  service : ServiceId
  protocol : Protocol
  port : UInt16
  /-- Seconds that a leaving target still gets requests in flight. -/
  deregistrationDelay : UInt64
  health : ResolvedCheck
deriving DecidableEq

/-- Sends requests for some paths to a target group. -/
structure ListenerRule where
  id : LogicalId
  listener : LogicalId
  priority : UInt32
  patterns : List String
  targetGroup : LogicalId
deriving DecidableEq

/-- A source that an ingress rule admits. -/
inductive Peer where
  | ipv4 (range : Cidr)
  | ipv6 (range : Cidr)
  | addressList (token : Token)
deriving DecidableEq

/-- The source that is a range, by its family. -/
def Peer.ofCidr (range : Cidr) : Peer :=
  match range.family with
  | .ipv4 => ipv4 range
  | .ipv6 => ipv6 range

/-- Admits a source to a port of a listener. -/
structure IngressRule where
  id : LogicalId
  listener : LogicalId
  peer : Peer
  port : UInt16
deriving DecidableEq

/-- Finds an address list that the platform maintains under a name. -/
structure AddressListLookup where
  id : LogicalId
  name : String
deriving DecidableEq

structure Certificate where
  id : LogicalId
  domain : String
  alternativeNames : List String
  /-- The zone that holds the records by which the domain is validated. -/
  validationZone : String
deriving DecidableEq

structure WebAcl where
  id : LogicalId
  scope : Scope
  defaultAction : Decision
  metric : String
  rules : List FirewallRule

/-- How the CDN reaches an origin. -/
inductive OriginProtocol where
  | httpOnly
deriving DecidableEq, Repr

/-- A private load balancer as an origin of the CDN. -/
structure VpcOrigin where
  id : LogicalId
  loadBalancer : LogicalId
  name : String
  httpPort : UInt16
  protocol : OriginProtocol
deriving DecidableEq

/-- What the CDN does with a viewer that comes without encryption. -/
inductive ViewerProtocol where
  | redirectToHttps
deriving DecidableEq, Repr

structure Distribution where
  id : LogicalId
  comment : String
  origin : LogicalId
  domainNames : List String
  certificate : Option Token
  webAcl : Option Token
  viewerProtocol : ViewerProtocol
  compress : Bool
  cachePolicy : String
  originRequestPolicy : String
  allowedMethods : String
  accessLogs : AccessLogs
deriving DecidableEq

/-- Makes `record.zone` another name of the target. -/
structure AliasRecord where
  id : LogicalId
  zone : String
  record : String
  target : Token
deriving DecidableEq

/-- Anything that a stack can hold. -/
inductive Resource where
  | loadBalancer (r : LoadBalancer)
  | listener (r : Listener)
  | targetGroup (r : TargetGroup)
  | listenerRule (r : ListenerRule)
  | ingressRule (r : IngressRule)
  | addressListLookup (r : AddressListLookup)
  | certificate (r : Certificate)
  | ipSet (r : IpSet)
  | webAcl (r : WebAcl)
  | vpcOrigin (r : VpcOrigin)
  | distribution (r : Distribution)
  | aliasRecord (r : AliasRecord)

namespace Resource

/-- The name of a resource within its stack. -/
def id : Resource → LogicalId
  | loadBalancer r => r.id
  | listener r => r.id
  | targetGroup r => r.id
  | listenerRule r => r.id
  | ingressRule r => r.id
  | addressListLookup r => r.id
  | certificate r => r.id
  | ipSet r => r.id
  | webAcl r => r.id
  | vpcOrigin r => r.id
  | distribution r => r.id
  | aliasRecord r => r.id

/-- The word for the kind of a resource in a plan. -/
def kind : Resource → String
  | loadBalancer _ => "LoadBalancer"
  | listener _ => "Listener"
  | targetGroup _ => "TargetGroup"
  | listenerRule _ => "ListenerRule"
  | ingressRule _ => "IngressRule"
  | addressListLookup _ => "PrefixListLookup"
  | certificate _ => "Certificate"
  | ipSet _ => "IpSet"
  | webAcl _ => "WebAcl"
  | vpcOrigin _ => "VpcOrigin"
  | distribution _ => "Distribution"
  | aliasRecord _ => "AliasRecord"

end Resource

end Perimeter
