import Perimeter.Firewall.Compile
import Perimeter.Topology

/-!
The stack for objects of the CDN. The CDN takes certificates and firewalls from one fixed region
only, so they get a stack there, whose handles the application's stack is given as a binding.
-/

namespace Perimeter

/-- The stack for objects of the CDN and what it offers. -/
structure Secondary where
  stack : Stack
  binding : Binding

namespace Secondary

/-- The region from which the CDN takes certificates and firewalls. -/
def controlRegion : String := "us-east-1"

def stackName : String := "EdgeGlobalStack"

def certificateOutput : String := "CertificateRef"

def firewallOutput : String := "FirewallRef"

def certificateId : LogicalId := .literal "CdnCertificate"

def webAclId : LogicalId := .literal "CdnWebAcl"

/-- Whether there is anything to be created for the CDN. -/
def isRequired (s : Settings) (policy : Policy) : Bool :=
  Topology.Kind.ofSettings s == .fronted && (s.domain.isConfigured || !policy.isEmpty)

/-- The certificate for a zone: it covers the zone and every label in front of it. -/
def certificate (zone : String) : Certificate := ⟨certificateId, "*." ++ zone, [zone], zone⟩

/-- The reference to a resource of this stack, as this stack offers it. -/
def handle (id : LogicalId) : Token := .attr id "Arn"

/-- Adds the certificate for a zone, if there is one. -/
def addCertificate (zone : Option String) (s : Secondary) : Except Error Secondary :=
  match zone with
  | none => .ok s
  | some zone => do
    let stack ← s.stack.add (.certificate (certificate zone))
    return ⟨stack.output certificateOutput (handle certificateId).text,
      { s.binding with certificate := some ((handle certificateId).exportedFrom stackName) }⟩

/-- Adds a firewall, if it has rules. -/
def addFirewall (f : Firewall) (s : Secondary) : Except Error Secondary :=
  if f.isEmpty then .ok s
  else do
    let stack ← s.stack.addAll (f.resources webAclId .cdn)
    return ⟨stack.output firewallOutput (handle webAclId).text,
      { s.binding with firewall := some ((handle webAclId).exportedFrom stackName) }⟩

/-- The stack for objects of the CDN, if there is anything to be created. -/
def synthesize (s : Settings) (policy : Policy) : Except Error (Option Secondary) :=
  if isRequired s policy then do
    let start : Secondary := ⟨.empty stackName controlRegion, ⟨stackName, none, none⟩⟩
    let withCertificate ← addCertificate s.domain.name start
    let firewall ← Firewall.compile .cdn policy
    return some (← addFirewall firewall withCertificate)
  else .ok none

/-- The events of a firewall's compilation: one for each rule. -/
def compileEvents (f : Firewall) : List Event :=
  f.rules.map fun _ => .firewallRuleCompiled

/-- What is reported while the stack is synthesised. -/
def events (s : Settings) (policy : Policy) : List Event :=
  if isRequired s policy then
    match Firewall.compile .cdn policy with
    | .ok firewall => compileEvents firewall ++ [.secondaryStackSynthesised]
    | .error _ => []
  else [.noSecondaryStack]

end Secondary

end Perimeter
