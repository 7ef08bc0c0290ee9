import Perimeter.Encoding.Resource
import Perimeter.Plan

/-!
The documents of topologies and plans. The shape of a topology is its first field.
-/

namespace Perimeter

open Document (text texts natural optional fieldIf)

def CustomDomain.toDocument (d : CustomDomain) : Document := .record [
  ("zone", text d.zone),
  ("record_name", text d.record)]

def Binding.toDocument (b : Binding) : Document :=
  .record (("producer_stack", text b.producer) ::
    (fieldIf "certificate" (b.certificate.map Token.toDocument) ++
      fieldIf "firewall" (b.firewall.map Token.toDocument)))

def DirectTopology.fields (t : DirectTopology) : List (String × Document) := [
  ("scheme", text t.scheme.label),
  ("subnets", text t.subnets.label),
  ("ingress", texts (t.ingress.map Cidr.text)),
  ("domain", optional CustomDomain.toDocument t.domain),
  ("load_balancer", t.loadBalancer.toDocument)]

def FrontedTopology.fields (t : FrontedTopology) : List (String × Document) := [
  ("domain", optional CustomDomain.toDocument t.domain),
  ("certificate", optional Token.toDocument t.certificate),
  ("firewall", optional Token.toDocument t.firewall),
  ("producer_stack", optional text t.producer),
  ("load_balancer", t.loadBalancer.toDocument)]

def Topology.toDocument (t : Topology) : Document :=
  .record (("kind", text t.kind.label) ::
    match t with
    | .direct t => t.fields
    | .fronted t => t.fields)

def TargetBinding.toDocument (b : TargetBinding) : Document := .record [
  ("service_id", b.service.toDocument),
  ("target_group", b.targetGroup.toDocument),
  ("port", natural b.port.toNat)]

def PlannedRule.toDocument (r : PlannedRule) : Document := .record [
  ("logical_id", r.id.toDocument),
  ("service_id", r.service.toDocument),
  ("priority", natural r.priority.value.toNat),
  ("path_patterns", texts r.patterns),
  ("target_group", r.targetGroup.toDocument)]

def Plan.toDocument (p : Plan) : Document := .record [
  ("topology", p.topology.toDocument),
  ("stacks", .list (p.allStacks.map Stack.toDocument)),
  ("base_url", text p.baseUrl),
  ("target_groups", .list (p.targetGroups.map TargetBinding.toDocument))]

end Perimeter
