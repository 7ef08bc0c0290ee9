import Perimeter.Decoding.Reading
import Perimeter.Firewall.Basic
import Perimeter.Policy
import Perimeter.Route.Basic
import Perimeter.Settings.Basic

/-!
Reading what operators and services hand in: settings, policies, routes and health checks. A
setting that is not there keeps its default; a malformed name, range or country is refused.
-/

namespace Perimeter

open Document (list? required orElse orNone)

/-- A value that a text stands for. -/
def Document.parsed? {α : Type} (parse : String → Except Error α) (d : Document) : Option α :=
  (Reading.exactText? d).bind fun s => (parse s).toOption

def Ident.ofDocument? (kind : Ident.Kind) : Document → Option (Ident kind) :=
  Document.parsed? (Ident.ofText kind)

def Cidr.ofDocument? : Document → Option Cidr := Document.parsed? Cidr.ofText

def Country.ofDocument? : Document → Option Country := Document.parsed? Country.ofText

/-- The set of the values in a list. -/
def Ascending.ofDocument? {α : Type} [Ranked α] (read : Document → Option α) (d : Document) :
    Option (Ascending α) :=
  (list? read d).map Ascending.ofList

def Family.ofText? (s : String) : Option Family :=
  [Family.ipv4, .ipv6].find? fun family => family.label == s

def Family.ofDocument? (d : Document) : Option Family := d.word?.bind Family.ofText?

def Scope.ofText? (s : String) : Option Scope :=
  [Scope.regional, .cdn].find? fun scope => scope.label == s

def Scope.ofDocument? (d : Document) : Option Scope := d.word?.bind Scope.ofText?

namespace HealthCheck

def keys : List String :=
  ["path", "interval_seconds", "healthy_threshold", "unhealthy_threshold", "healthy_http_codes"]

def ofDocument? (d : Document) : Option HealthCheck := do
  let r := Reading.exact
  let fields ← r.fields? keys d
  return {
    path := ← required "path" r.text? fields
    interval := ← orNone "interval_seconds" r.uint64? fields
    healthyThreshold := ← orNone "healthy_threshold" r.uint32? fields
    unhealthyThreshold := ← orNone "unhealthy_threshold" r.uint32? fields
    healthyCodes := ← orNone "healthy_http_codes" r.text? fields }

end HealthCheck

namespace HealthProfile

def keys : List String :=
  ["interval_seconds", "healthy_threshold", "unhealthy_threshold", "healthy_http_codes"]

def ofDocument? (d : Document) : Option HealthProfile := do
  let r := Reading.exact
  let fields ← r.fields? keys d
  return {
    interval := ← required "interval_seconds" r.uint64? fields
    healthyThreshold := ← required "healthy_threshold" r.uint32? fields
    unhealthyThreshold := ← required "unhealthy_threshold" r.uint32? fields
    healthyCodes := ← required "healthy_http_codes" r.text? fields }

end HealthProfile

namespace Route

def keys : List String := ["service_id", "target_port", "health_check", "path_patterns"]

def ofDocument? (d : Document) : Option Route := do
  let r := Reading.exact
  let fields ← r.fields? keys d
  return {
    service := ← required "service_id" (Ident.ofDocument? .service) fields
    port := ← required "target_port" r.uint16? fields
    health := ← required "health_check" HealthCheck.ofDocument? fields
    paths := ← required "path_patterns" (list? r.text?) fields }

end Route

namespace Policy

def keys : List String := ["allowed_ipv4", "allowed_ipv6", "allowed_country_codes"]

/-- The policy of a document; the family of its ranges is not checked. -/
def ofDocument? (d : Document) : Option Policy := do
  let fields ← Reading.exact.fields? keys d
  return {
    ipv4 := ← orElse "allowed_ipv4" (Ascending.ofDocument? Cidr.ofDocument?) .empty fields
    ipv6 := ← orElse "allowed_ipv6" (Ascending.ofDocument? Cidr.ofDocument?) .empty fields
    countries :=
      ← orElse "allowed_country_codes" (Ascending.ofDocument? Country.ofDocument?) .empty fields }

end Policy

namespace AccessSettings

def keys : List String := ["allowed_ipv4_cidrs", "allowed_ipv6_cidrs", "allowed_country_codes"]

def ofDocument? (r : Reading) (d : Document) : Option AccessSettings := do
  let fields ← r.fields? keys d
  return {
    ipv4 := ← orNone "allowed_ipv4_cidrs" (list? r.text?) fields
    ipv6 := ← orNone "allowed_ipv6_cidrs" (list? r.text?) fields
    countries := ← orNone "allowed_country_codes" (list? r.text?) fields }

end AccessSettings

namespace DomainSettings

def keys : List String := ["domain_name", "sub_domain"]

def ofDocument? (r : Reading) (d : Document) : Option DomainSettings := do
  let fields ← r.fields? keys d
  return {
    name := ← orNone "domain_name" r.text? fields
    sub := ← orNone "sub_domain" r.text? fields }

end DomainSettings

namespace NetworkSettings

def keys : List String :=
  ["use_cdn", "internal_alb", "vpc_isolated", "vpc_id", "use_nat_instance"]

def ofDocument? (r : Reading) (d : Document) : Option NetworkSettings := do
  let fields ← r.fields? keys d
  return {
    useCdn := ← orElse "use_cdn" r.truth? initial.useCdn fields
    internal := ← orNone "internal_alb" r.truth? fields
    isolated := ← orNone "vpc_isolated" r.truth? fields
    vpcId := ← orNone "vpc_id" r.text? fields
    natInstance := ← orNone "use_nat_instance" r.truth? fields }

end NetworkSettings

namespace LoadBalancerSettings

def keys : List String := ["idle_timeout_seconds", "access_log_bucket"]

def ofDocument? (r : Reading) (d : Document) : Option LoadBalancerSettings := do
  let fields ← r.fields? keys d
  return {
    idleTimeout := ← orElse "idle_timeout_seconds" r.uint64? initial.idleTimeout fields
    logBucket := ← orElse "access_log_bucket" r.text? initial.logBucket fields }

end LoadBalancerSettings

namespace ReportSettings

def keys : List String := ["log_level", "json_logging"]

def ofDocument? (r : Reading) (d : Document) : Option ReportSettings := do
  let fields ← r.fields? keys d
  return {
    level := ← orElse "log_level" r.text? initial.level fields
    json := ← orElse "json_logging" r.truth? initial.json fields }

end ReportSettings

namespace Settings

def keys : List String :=
  ["region", "account", "access", "domain", "network", "load_balancer", "observability"]

def ofDocument? (r : Reading) (d : Document) : Option Settings := do
  let fields ← r.fields? keys d
  return {
    region := ← orElse "region" r.text? initial.region fields
    account := ← orNone "account" r.text? fields
    access := ← orElse "access" (AccessSettings.ofDocument? r) .initial fields
    domain := ← orElse "domain" (DomainSettings.ofDocument? r) .initial fields
    network := ← orElse "network" (NetworkSettings.ofDocument? r) .initial fields
    loadBalancer := ← orElse "load_balancer" (LoadBalancerSettings.ofDocument? r) .initial fields
    report := ← orElse "observability" (ReportSettings.ofDocument? r) .initial fields }

end Settings

end Perimeter
