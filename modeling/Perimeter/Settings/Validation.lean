import Perimeter.Settings.Basic

/-!
Checking settings before anything is built from them: the limits of single values first, then the
options that exclude each other, then the texts of the access policy.
-/

namespace Perimeter.Settings

/-- A limit on a single value. -/
structure Limit where
  /-- The section of the value, if it is not one of the settings' own. -/
  group : Option String
  field : String
  message : String
  holds : Settings → Bool

/-- Whether a text that may be absent has a length within limits, counted in characters. -/
def lengthWithin (low : Nat) (high : Option Nat) (s : Option String) : Bool :=
  match s with
  | none => true
  | some s => decide (low ≤ s.length) && high.all fun high => decide (s.length ≤ high)

/-- All limits on single values. -/
def limits : List Limit := [
  ⟨none, "region", "Region cannot be empty", fun s => lengthWithin 1 none (some s.region)⟩,
  ⟨some "domain", "domain_name", "Domain name cannot be empty",
    fun s => lengthWithin 1 none s.domain.name⟩,
  ⟨some "domain", "sub_domain", "Sub-domain must be 1-63 characters",
    fun s => lengthWithin 1 (some 63) s.domain.sub⟩,
  ⟨some "network", "vpc_id", "VPC id cannot be empty",
    fun s => lengthWithin 1 none s.network.vpcId⟩,
  ⟨some "load_balancer", "idle_timeout_seconds", "Idle timeout must be between 1 and 4000 seconds",
    fun s => decide (1 ≤ s.loadBalancer.idleTimeout ∧ s.loadBalancer.idleTimeout ≤ 4000)⟩,
  ⟨some "load_balancer", "access_log_bucket", "Access log bucket cannot be empty",
    fun s => lengthWithin 1 none (some s.loadBalancer.logBucket)⟩,
  ⟨some "observability", "log_level", "Log level cannot be empty",
    fun s => lengthWithin 1 none (some s.report.level)⟩]

/-- The limits that settings break. -/
def broken (s : Settings) : List Limit :=
  limits.filter fun limit => !limit.holds s

/-- The failure of settings that break limits. Only limits on the settings' own values are named;
those on values of a section are not. -/
def limitsBroken (ls : List Limit) : Error :=
  let named := ls.filter fun limit => limit.group.isNone
  .validation ("Validation failed: " ++
    "; ".intercalate (named.map fun limit => limit.field ++ ": " ++ limit.message)) none

/-- Options that exclude each other. -/
inductive Conflict where
  | importedIsolated (vpcId : String)
  | importedNatInstance (vpcId : String)
  | cdnInternal
  | cdnIsolated
  | subWithoutDomain
  | exposedIsolated
  | countriesWithoutCdn
deriving DecidableEq, Repr

/-- The failure of settings with a conflict, which names the two options. -/
def Conflict.error : Conflict → Error
  | importedIsolated vpcId =>
    .conflict "network.vpc_id" "network.vpc_isolated"
      ("an imported VPC (" ++ vpcId ++ ") cannot also set vpc_isolated")
  | importedNatInstance vpcId =>
    .conflict "network.vpc_id" "network.use_nat_instance"
      ("an imported VPC (" ++ vpcId ++ ") cannot also set use_nat_instance")
  | cdnInternal =>
    .conflict "network.use_cdn" "network.internal_alb"
      "the CDN always uses a private load balancer; internal_alb cannot be set with it"
  | cdnIsolated =>
    .conflict "network.use_cdn" "network.vpc_isolated"
      "the CDN needs an origin reachable from its edge address range, which a fully isolated network cannot provide"
  | subWithoutDomain =>
    .conflict "domain.sub_domain" "domain.domain_name" "sub_domain requires domain_name"
  | exposedIsolated =>
    .conflict "network.internal_alb" "network.vpc_isolated"
      "an internet-facing load balancer needs public subnets; set internal_alb: true for an isolated network"
  | countriesWithoutCdn =>
    .conflict "network.use_cdn" "access.allowed_country_codes"
      "country allow-lists are enforced by the CDN firewall and need use_cdn: true"

/-- The conflict of an imported network with the options that shape a new one. -/
def importConflict? (n : NetworkSettings) : Option Conflict :=
  match n.vpcId with
  | none => none
  | some vpcId =>
    if n.isolated.isSome then some (.importedIsolated vpcId)
    else if n.natInstance.isSome then some (.importedNatInstance vpcId)
    else none

/-- The first conflict of settings. -/
def conflict? (s : Settings) : Option Conflict :=
  match importConflict? s.network with
  | some conflict => some conflict
  | none =>
    if s.network.useCdn && s.network.internal.isSome then some .cdnInternal
    else if s.network.useCdn && s.network.isIsolated then some .cdnIsolated
    else if s.domain.sub.isSome && s.domain.name.isNone then some .subWithoutDomain
    else if !s.network.useCdn && !s.network.isInternal && s.network.isIsolated then
      some .exposedIsolated
    else if !s.network.useCdn && s.access.hasCountries then some .countriesWithoutCdn
    else none

/-- Accepts settings that break no limit, have no conflict and give a policy. -/
def validate (s : Settings) : Except Error Unit := do
  unless s.broken.isEmpty do
    throw (limitsBroken s.broken)
  if let some conflict := s.conflict? then
    throw conflict.error
  let _ ← s.policy

/-- Whether clients reach the load balancer over the internet without encryption. -/
def isExposed (s : Settings) : Bool :=
  !s.network.useCdn && !s.network.isInternal && !s.domain.isConfigured

/-- What accepted settings give reason to report. -/
def warnings (s : Settings) : List Event :=
  match s.validate with
  | .ok () => if s.isExposed then [.exposedWithoutTls] else []
  | .error _ => []

end Perimeter.Settings
