import Perimeter.Event
import Perimeter.Policy

/-!
The settings of a deployment, in five sections and two values of their own. Every setting has a
default; the default deployment is reached through a CDN and open to everybody.
-/

namespace Perimeter

/-- Who may reach the application, as the operator wrote it. -/
structure AccessSettings where
  ipv4 : Option (List String)
  ipv6 : Option (List String)
  countries : Option (List String)
deriving DecidableEq, Repr

/-- Under which name the application is published. -/
structure DomainSettings where
  /-- The public zone. -/
  name : Option String
  /-- The label in front of the zone. -/
  sub : Option String
deriving DecidableEq, Repr

/-- The shape of the network. -/
structure NetworkSettings where
  /-- Whether a CDN stands in front of a private load balancer. -/
  useCdn : Bool
  /-- Whether a load balancer without a CDN is private. -/
  internal : Option Bool
  /-- Whether the network has no way to the internet. -/
  isolated : Option Bool
  /-- The network to import instead of creating one. -/
  vpcId : Option String
  /-- Whether instances stand in for gateways. -/
  natInstance : Option Bool
deriving DecidableEq, Repr

structure LoadBalancerSettings where
  /-- Seconds after which an idle connection is closed. -/
  idleTimeout : UInt64
  logBucket : String
deriving DecidableEq, Repr

structure ReportSettings where
  /-- Which events are reported. -/
  level : String
  /-- Whether events are reported as JSON. -/
  json : Bool
deriving DecidableEq, Repr

/-- The settings of a deployment. -/
structure Settings where
  region : String
  account : Option String
  access : AccessSettings
  domain : DomainSettings
  network : NetworkSettings
  loadBalancer : LoadBalancerSettings
  report : ReportSettings
deriving DecidableEq, Repr

def AccessSettings.initial : AccessSettings := ⟨none, none, none⟩

def DomainSettings.initial : DomainSettings := ⟨none, none⟩

def NetworkSettings.initial : NetworkSettings := ⟨true, none, none, none, none⟩

def LoadBalancerSettings.initial : LoadBalancerSettings := ⟨600, "AccessLogBucket"⟩

def ReportSettings.initial : ReportSettings := ⟨"info", false⟩

/-- The settings of an operator who sets nothing. -/
def Settings.initial : Settings :=
  ⟨"us-west-2", none, .initial, .initial, .initial, .initial, .initial⟩

instance : Inhabited Settings := ⟨.initial⟩

namespace AccessSettings

/-- Whether at least one country is listed. -/
def hasCountries (a : AccessSettings) : Bool :=
  !(a.countries.getD []).isEmpty

end AccessSettings

namespace DomainSettings

def isConfigured (d : DomainSettings) : Bool := d.name.isSome

/-- The label in front of the zone where none is set. -/
def defaultSub : String := "app"

def effectiveSub (d : DomainSettings) : String := d.sub.getD defaultSub

/-- The full name of the application, if it is published under one. -/
def hostName (d : DomainSettings) : Option String :=
  d.name.map fun zone => d.effectiveSub ++ "." ++ zone

end DomainSettings

namespace NetworkSettings

def isInternal (n : NetworkSettings) : Bool := n.internal.getD false

def isIsolated (n : NetworkSettings) : Bool := n.isolated.getD false

end NetworkSettings

namespace Settings

/-- The access policy that the settings ask for. -/
def policy (s : Settings) : Except Error Perimeter.Policy :=
  Policy.ofLists (s.access.ipv4.getD []) (s.access.ipv6.getD []) (s.access.countries.getD [])

/-- The settings in brief. -/
def summary (s : Settings) : Summary where
  region := s.region
  useCdn := s.network.useCdn
  internal := s.network.isInternal
  customDomain := s.domain.isConfigured
  ipv4Ranges := (s.access.ipv4.getD []).length
  ipv6Ranges := (s.access.ipv6.getD []).length
  countries := (s.access.countries.getD []).length

end Settings

end Perimeter
