import Perimeter.Encoding.Input
import Perimeter.Stack

/-!
The documents of resources and stacks. The kind of a resource is its first field. Lists of
certificates, of names and of dependencies, the outputs of a stack, and handles that are not set
are left out where they are empty.
-/

namespace Perimeter

open Document (text texts natural optional)

/-- A field that is left out if there is no value for it. -/
def Document.fieldIf (key : String) : Option Document → List (String × Document)
  | some value => [(key, value)]
  | none => []

/-- A field with a list that is left out if the list is empty. -/
def Document.textsIf (key : String) (ss : List String) : List (String × Document) :=
  if ss.isEmpty then [] else [(key, texts ss)]

open Document (fieldIf textsIf)

def Token.toDocument (t : Token) : Document := Document.text t.text

def Ident.toDocument {kind : Ident.Kind} (id : Ident kind) : Document := Document.text id.text

def Scheme.label : Scheme → String
  | internetFacing => "internet-facing"
  | internal => "internal"

def Subnets.label : Subnets → String
  | exposed => "public"
  | hidden => "private"
  | hiddenAndIsolated => "private_and_isolated"

def Protocol.label : Protocol → String
  | http => "HTTP"
  | https => "HTTPS"

def OriginProtocol.label : OriginProtocol → String
  | httpOnly => "http-only"

def ViewerProtocol.label : ViewerProtocol → String
  | redirectToHttps => "redirect-to-https"

def AccessLogs.toDocument (l : AccessLogs) : Document := .record [
  ("bucket", text l.bucket),
  ("prefix", text l.folder)]

def DefaultAction.toDocument : DefaultAction → Document
  | fixedResponse status => .record [
    ("kind", text "fixed_response"),
    ("status_code", natural status.toNat)]

def Peer.toDocument : Peer → Document
  | ipv4 range => .record [("kind", text "ipv4"), ("value", text range.text)]
  | ipv6 range => .record [("kind", text "ipv6"), ("value", text range.text)]
  | addressList token => .record [("kind", text "prefix_list"), ("value", token.toDocument)]

mutual

/-- The document of a condition. -/
def Expression.toDocument : Expression → Document
  | .ipSet id => .variant "ip_set_reference" id.toDocument
  | .geo countries => .variant "geo_match" (texts (countries.map Country.text))
  | .all parts => .variant "and" (.list (Expression.documents parts))
termination_by structural e => e

/-- The documents of conditions. -/
def Expression.documents : List Expression → List Document
  | [] => []
  | e :: es => Expression.toDocument e :: Expression.documents es
termination_by structural es => es

end

def FirewallRule.toDocument (r : FirewallRule) : Document := .record [
  ("name", text r.name),
  ("priority", natural r.priority.toNat),
  ("statement", r.statement.toDocument),
  ("action", text r.action.label),
  ("metric_name", text r.metric)]

namespace Resource

/-- The fields of a resource behind its kind. -/
def fields : Resource → List (String × Document)
  | loadBalancer r => [
    ("logical_id", r.id.toDocument),
    ("scheme", text r.scheme.label),
    ("subnets", text r.subnets.label),
    ("idle_timeout_seconds", natural r.idleTimeout.toNat),
    ("access_logs", r.accessLogs.toDocument)]
  | listener r => [
    ("logical_id", r.id.toDocument),
    ("load_balancer", r.loadBalancer.toDocument),
    ("protocol", text r.protocol.label),
    ("port", natural r.port.toNat)] ++
    textsIf "certificates" (r.certificates.map Token.text) ++ [
    ("default_action", r.defaultAction.toDocument),
    ("open", .bool r.isOpen)]
  | targetGroup r => [
    ("logical_id", r.id.toDocument),
    ("service_id", r.service.toDocument),
    ("protocol", text r.protocol.label),
    ("port", natural r.port.toNat),
    ("deregistration_delay_seconds", natural r.deregistrationDelay.toNat),
    ("health_check", r.health.toDocument)]
  | listenerRule r => [
    ("logical_id", r.id.toDocument),
    ("listener", r.listener.toDocument),
    ("priority", natural r.priority.toNat),
    ("path_patterns", texts r.patterns),
    ("target_group", r.targetGroup.toDocument)]
  | ingressRule r => [
    ("logical_id", r.id.toDocument),
    ("listener", r.listener.toDocument),
    ("peer", r.peer.toDocument),
    ("port", natural r.port.toNat)]
  | addressListLookup r => [
    ("logical_id", r.id.toDocument),
    ("prefix_list_name", text r.name)]
  | certificate r => [
    ("logical_id", r.id.toDocument),
    ("domain_name", text r.domain)] ++
    textsIf "subject_alternative_names" r.alternativeNames ++ [
    ("validation_zone", text r.validationZone)]
  | ipSet r => [
    ("logical_id", r.id.toDocument),
    ("ip_address_version", text r.family.label),
    ("scope", text r.scope.label),
    ("addresses", texts (r.ranges.map Cidr.text))]
  | webAcl r => [
    ("logical_id", r.id.toDocument),
    ("scope", text r.scope.label),
    ("default_action", text r.defaultAction.label),
    ("metric_name", text r.metric),
    ("rules", .list (r.rules.map FirewallRule.toDocument))]
  | vpcOrigin r => [
    ("logical_id", r.id.toDocument),
    ("load_balancer", r.loadBalancer.toDocument),
    ("name", text r.name),
    ("http_port", natural r.httpPort.toNat),
    ("origin_protocol_policy", text r.protocol.label)]
  | distribution r => [
    ("logical_id", r.id.toDocument),
    ("comment", text r.comment),
    ("origin", r.origin.toDocument)] ++
    textsIf "domain_names" r.domainNames ++
    fieldIf "certificate" (r.certificate.map Token.toDocument) ++
    fieldIf "web_acl" (r.webAcl.map Token.toDocument) ++ [
    ("viewer_protocol_policy", text r.viewerProtocol.label),
    ("compress", .bool r.compress),
    ("cache_policy", text r.cachePolicy),
    ("origin_request_policy", text r.originRequestPolicy),
    ("allowed_methods", text r.allowedMethods),
    ("access_logs", r.accessLogs.toDocument)]
  | aliasRecord r => [
    ("logical_id", r.id.toDocument),
    ("zone", text r.zone),
    ("record_name", text r.record),
    ("target", r.target.toDocument)]

def toDocument (r : Resource) : Document := .record (("type", text r.kind) :: r.fields)

end Resource

def IpSet.toDocument (set : IpSet) : Document := .record (Resource.ipSet set).fields

def TargetGroup.toDocument (group : TargetGroup) : Document :=
  .record (Resource.targetGroup group).fields

/-- The outputs of a stack, left out if there are none. -/
def Stack.outputFields (s : Stack) : List (String × Document) :=
  if s.outputs.isEmpty then []
  else [("outputs", .record (s.outputs.map fun (key, value) => (key, text value)))]

def Stack.toDocument (s : Stack) : Document :=
  .record ([("name", text s.name), ("region", text s.region)] ++
    textsIf "depends_on" s.dependsOn ++
    [("resources", .list (s.resources.map Resource.toDocument))] ++ s.outputFields)

end Perimeter
