import Perimeter.Document.Basic
import Perimeter.Policy
import Perimeter.Route.Basic
import Perimeter.Settings.Basic

/-!
The documents of what operators and services hand in: settings, policies, routes and health checks.
A value that is not set is null, and a set is the ascending list of its members.
-/

namespace Perimeter

open Document (text texts natural optional)

def HealthCheck.toDocument (check : HealthCheck) : Document := .record [
  ("path", text check.path),
  ("interval_seconds", optional (fun n => natural n.toNat) check.interval),
  ("healthy_threshold", optional (fun n => natural n.toNat) check.healthyThreshold),
  ("unhealthy_threshold", optional (fun n => natural n.toNat) check.unhealthyThreshold),
  ("healthy_http_codes", optional text check.healthyCodes)]

def HealthProfile.toDocument (profile : HealthProfile) : Document := .record [
  ("interval_seconds", natural profile.interval.toNat),
  ("healthy_threshold", natural profile.healthyThreshold.toNat),
  ("unhealthy_threshold", natural profile.unhealthyThreshold.toNat),
  ("healthy_http_codes", text profile.healthyCodes)]

def ResolvedCheck.toDocument (check : ResolvedCheck) : Document := .record [
  ("path", text check.path),
  ("interval_seconds", natural check.interval.toNat),
  ("healthy_threshold", natural check.healthyThreshold.toNat),
  ("unhealthy_threshold", natural check.unhealthyThreshold.toNat),
  ("healthy_http_codes", text check.healthyCodes)]

def Route.toDocument (r : Route) : Document := .record [
  ("service_id", text r.service.text),
  ("target_port", natural r.port.toNat),
  ("health_check", r.health.toDocument),
  ("path_patterns", texts r.paths)]

def Policy.toDocument (p : Policy) : Document := .record [
  ("allowed_ipv4", texts (p.ipv4.toList.map Cidr.text)),
  ("allowed_ipv6", texts (p.ipv6.toList.map Cidr.text)),
  ("allowed_country_codes", texts (p.countries.toList.map Country.text))]

def AccessSettings.toDocument (a : AccessSettings) : Document := .record [
  ("allowed_ipv4_cidrs", optional texts a.ipv4),
  ("allowed_ipv6_cidrs", optional texts a.ipv6),
  ("allowed_country_codes", optional texts a.countries)]

def DomainSettings.toDocument (d : DomainSettings) : Document := .record [
  ("domain_name", optional text d.name),
  ("sub_domain", optional text d.sub)]

def NetworkSettings.toDocument (n : NetworkSettings) : Document := .record [
  ("use_cdn", .bool n.useCdn),
  ("internal_alb", optional .bool n.internal),
  ("vpc_isolated", optional .bool n.isolated),
  ("vpc_id", optional text n.vpcId),
  ("use_nat_instance", optional .bool n.natInstance)]

def LoadBalancerSettings.toDocument (l : LoadBalancerSettings) : Document := .record [
  ("idle_timeout_seconds", natural l.idleTimeout.toNat),
  ("access_log_bucket", text l.logBucket)]

def ReportSettings.toDocument (r : ReportSettings) : Document := .record [
  ("log_level", text r.level),
  ("json_logging", .bool r.json)]

def Settings.toDocument (s : Settings) : Document := .record [
  ("region", text s.region),
  ("account", optional text s.account),
  ("access", s.access.toDocument),
  ("domain", s.domain.toDocument),
  ("network", s.network.toDocument),
  ("load_balancer", s.loadBalancer.toDocument),
  ("observability", s.report.toDocument)]

end Perimeter
