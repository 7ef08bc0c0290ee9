import Perimeter.Decoding.Input
import Perimeter.Proofs.Decoding
import Perimeter.Proofs.Settings.Paths

/-!
Settings as a family of leaves. A document whose sections are records is read leaf by leaf: each leaf
from the value at its own path, or as its default where there is none (`Settings.ofDocument?_iff`).
-/

namespace Perimeter

open Document (list? optional? orElse orNone lookup)

/-- The leaves of the settings. -/
inductive Setting where
  | region
  | account
  | ipv4
  | ipv6
  | countries
  | domainName
  | subDomain
  | useCdn
  | internal
  | isolated
  | vpcId
  | natInstance
  | idleTimeout
  | logBucket
  | logLevel
  | jsonLogging
deriving DecidableEq

namespace Setting

/-- The keys that lead to a leaf. -/
def keys : Setting → List String
  | region => ["region"]
  | account => ["account"]
  | ipv4 => ["access", "allowed_ipv4_cidrs"]
  | ipv6 => ["access", "allowed_ipv6_cidrs"]
  | countries => ["access", "allowed_country_codes"]
  | domainName => ["domain", "domain_name"]
  | subDomain => ["domain", "sub_domain"]
  | useCdn => ["network", "use_cdn"]
  | internal => ["network", "internal_alb"]
  | isolated => ["network", "vpc_isolated"]
  | vpcId => ["network", "vpc_id"]
  | natInstance => ["network", "use_nat_instance"]
  | idleTimeout => ["load_balancer", "idle_timeout_seconds"]
  | logBucket => ["load_balancer", "access_log_bucket"]
  | logLevel => ["observability", "log_level"]
  | jsonLogging => ["observability", "json_logging"]

/-- What a leaf holds. -/
abbrev Value : Setting → Type
  | region | logBucket | logLevel => String
  | account | domainName | subDomain | vpcId => Option String
  | ipv4 | ipv6 | countries => Option (List String)
  | useCdn | jsonLogging => Bool
  | internal | isolated | natInstance => Option Bool
  | idleTimeout => UInt64

/-- The value of a leaf. -/
def get : (setting : Setting) → Settings → setting.Value
  | region, s => s.region
  | account, s => s.account
  | ipv4, s => s.access.ipv4
  | ipv6, s => s.access.ipv6
  | countries, s => s.access.countries
  | domainName, s => s.domain.name
  | subDomain, s => s.domain.sub
  | useCdn, s => s.network.useCdn
  | internal, s => s.network.internal
  | isolated, s => s.network.isolated
  | vpcId, s => s.network.vpcId
  | natInstance, s => s.network.natInstance
  | idleTimeout, s => s.loadBalancer.idleTimeout
  | logBucket, s => s.loadBalancer.logBucket
  | logLevel, s => s.report.level
  | jsonLogging, s => s.report.json

/-- The settings with the given leaves. -/
def gather (value : (setting : Setting) → setting.Value) : Settings where
  region := value region
  account := value account
  access := ⟨value ipv4, value ipv6, value countries⟩
  domain := ⟨value domainName, value subDomain⟩
  network := ⟨value useCdn, value internal, value isolated, value vpcId, value natInstance⟩
  loadBalancer := ⟨value idleTimeout, value logBucket⟩
  report := ⟨value logLevel, value jsonLogging⟩

@[simp] theorem get_gather (value : (setting : Setting) → setting.Value) (setting : Setting) :
    setting.get (gather value) = value setting := by
  cases setting <;> rfl

theorem forall_iff {p : Setting → Prop} : (∀ setting, p setting) ↔
    (p region ∧ p account) ∧ (p ipv4 ∧ p ipv6 ∧ p countries) ∧ (p domainName ∧ p subDomain) ∧
      (p useCdn ∧ p internal ∧ p isolated ∧ p vpcId ∧ p natInstance) ∧ (p idleTimeout ∧ p logBucket) ∧
      p logLevel ∧ p jsonLogging := by
  constructor
  · intro each
    simp only [each, and_self]
  · rintro ⟨⟨_, _⟩, ⟨_, _, _⟩, ⟨_, _⟩, ⟨_, _, _, _, _⟩, ⟨_, _⟩, _, _⟩ setting
    cases setting <;> assumption

/-- Reads the value of a leaf. -/
def read? (r : Reading) : (setting : Setting) → Document → Option setting.Value
  | region | logBucket | logLevel => r.text?
  | account | domainName | subDomain | vpcId => optional? r.text?
  | ipv4 | ipv6 | countries => optional? (list? r.text?)
  | useCdn | jsonLogging => r.truth?
  | internal | isolated | natInstance => optional? r.truth?
  | idleTimeout => r.uint64?

/-- Reads a leaf from the place where its value may stand; without one the leaf has its default. -/
def readFrom? (r : Reading) (setting : Setting) : Option Document → Option setting.Value
  | some d => setting.read? r d
  | none => some (setting.get .initial)

theorem read?_of_readFrom? {r : Reading} {setting : Setting} {place : Option Document}
    {value : Document} {a : setting.Value} (read : setting.readFrom? r place = some a)
    (found : place = some value) : setting.read? r value = some a := by
  rw [found] at read
  exact read

/-- The leaf has its value in the settings from the value at its path in a document. -/
def Reads (r : Reading) (d : Document) (s : Settings) (setting : Setting) : Prop :=
  setting.readFrom? r (d.at? setting.keys) = some (setting.get s)

end Setting

namespace Document

/-- The fields of a section; a section that is not there has none. -/
def inside (key : String) (fields : List (String × Document)) : List (String × Document) :=
  ((lookup key fields).getD (record [])).fields

/-- The keys of the sections. -/
def sections : List String := ["access", "domain", "network", "load_balancer", "observability"]

def isRecord : Document → Bool
  | record _ => true
  | _ => false

/-- The sections of a document, as far as they are there, are records. -/
def Sectioned (d : Document) : Prop := ∀ key ∈ sections, ∀ inner ∈ d.get? key, inner.isRecord = true

instance (d : Document) : Decidable d.Sectioned :=
  inferInstanceAs (Decidable (∀ key ∈ sections, ∀ inner ∈ d.get? key, inner.isRecord = true))

variable {α : Type} {read : Document → Option α} {initial : α} {fields : List (String × Document)}

theorem orElse_section (key : String) (sectioned : (record fields).Sectioned) (known : key ∈ sections)
    (empty : read (record []) = some initial) :
    orElse key read initial fields = read (record (inside key fields)) := by
  unfold orElse inside
  cases found : lookup key fields with
  | none => exact empty.symm
  | some inner =>
    cases inner with
    | record own => rfl
    | _ => cases sectioned key known _ found

theorem at?_leaf (key : String) : (record fields).at? [key] = lookup key fields := by
  simp [at?, get?]

theorem at?_inside (key leaf : String) :
    (record fields).at? [key, leaf] = lookup leaf (inside key fields) := by
  rw [inside, lookup_fields, at?, get?]
  cases lookup key fields with
  | none => rfl
  | some inner => exact Option.bind_fun_some (inner.get? leaf)

/-- A value in a section stands among the fields of a record, which the section is read from. -/
theorem of_at?_inside {key leaf : String} {a : α} {value : Document}
    (made : orElse key read initial fields = some a)
    (shown : (record fields).at? [key, leaf] = some value) :
    ∃ own, read (record own) = some a ∧ lookup leaf own = some value := by
  obtain ⟨inner, found, deeper⟩ := Option.bind_eq_some_iff.mp shown
  rw [orElse, show lookup key fields = some inner from found] at made
  cases inner with
  | record own => exact ⟨own, made, (at?_leaf leaf).symm.trans deeper⟩
  | _ => cases deeper

end Document

/-! ### Sections -/

section Sections

variable {r : Reading} {fields : List (String × Document)}

theorem AccessSettings.ofDocument?_empty : ofDocument? r (.record []) = some initial := rfl

theorem AccessSettings.ofDocument?_iff {a : AccessSettings} :
    ofDocument? r (.record fields) = some a ↔
      Setting.ipv4.readFrom? r (lookup "allowed_ipv4_cidrs" fields) = some a.ipv4 ∧
      Setting.ipv6.readFrom? r (lookup "allowed_ipv6_cidrs" fields) = some a.ipv6 ∧
      Setting.countries.readFrom? r (lookup "allowed_country_codes" fields) = some a.countries := by
  simp only [ofDocument?, Reading.fields?_record, Option.bind_eq_bind, Option.bind_some,
    Option.bind_eq_some_iff, Option.pure_def, Option.some.injEq]
  constructor
  · rintro ⟨ipv4, first, ipv6, second, countries, third, rfl⟩
    exact ⟨first, second, third⟩
  · rintro ⟨first, second, third⟩
    exact ⟨_, first, _, second, _, third, rfl⟩

theorem DomainSettings.ofDocument?_empty : ofDocument? r (.record []) = some initial := rfl

theorem DomainSettings.ofDocument?_iff {d : DomainSettings} :
    ofDocument? r (.record fields) = some d ↔
      Setting.domainName.readFrom? r (lookup "domain_name" fields) = some d.name ∧
      Setting.subDomain.readFrom? r (lookup "sub_domain" fields) = some d.sub := by
  simp only [ofDocument?, Reading.fields?_record, Option.bind_eq_bind, Option.bind_some,
    Option.bind_eq_some_iff, Option.pure_def, Option.some.injEq]
  constructor
  · rintro ⟨name, first, sub, second, rfl⟩
    exact ⟨first, second⟩
  · rintro ⟨first, second⟩
    exact ⟨_, first, _, second, rfl⟩

theorem NetworkSettings.ofDocument?_empty : ofDocument? r (.record []) = some initial := rfl

theorem NetworkSettings.ofDocument?_iff {n : NetworkSettings} :
    ofDocument? r (.record fields) = some n ↔
      Setting.useCdn.readFrom? r (lookup "use_cdn" fields) = some n.useCdn ∧
      Setting.internal.readFrom? r (lookup "internal_alb" fields) = some n.internal ∧
      Setting.isolated.readFrom? r (lookup "vpc_isolated" fields) = some n.isolated ∧
      Setting.vpcId.readFrom? r (lookup "vpc_id" fields) = some n.vpcId ∧
      Setting.natInstance.readFrom? r (lookup "use_nat_instance" fields) = some n.natInstance := by
  simp only [ofDocument?, Reading.fields?_record, Option.bind_eq_bind, Option.bind_some,
    Option.bind_eq_some_iff, Option.pure_def, Option.some.injEq]
  constructor
  · rintro ⟨useCdn, first, internal, second, isolated, third, vpcId, fourth, nat, fifth, rfl⟩
    exact ⟨first, second, third, fourth, fifth⟩
  · rintro ⟨first, second, third, fourth, fifth⟩
    exact ⟨_, first, _, second, _, third, _, fourth, _, fifth, rfl⟩

theorem LoadBalancerSettings.ofDocument?_empty : ofDocument? r (.record []) = some initial := rfl

theorem LoadBalancerSettings.ofDocument?_iff {l : LoadBalancerSettings} :
    ofDocument? r (.record fields) = some l ↔
      Setting.idleTimeout.readFrom? r (lookup "idle_timeout_seconds" fields) = some l.idleTimeout ∧
      Setting.logBucket.readFrom? r (lookup "access_log_bucket" fields) = some l.logBucket := by
  simp only [ofDocument?, Reading.fields?_record, Option.bind_eq_bind, Option.bind_some,
    Option.bind_eq_some_iff, Option.pure_def, Option.some.injEq]
  constructor
  · rintro ⟨idleTimeout, first, logBucket, second, rfl⟩
    exact ⟨first, second⟩
  · rintro ⟨first, second⟩
    exact ⟨_, first, _, second, rfl⟩

theorem ReportSettings.ofDocument?_empty : ofDocument? r (.record []) = some initial := rfl

theorem ReportSettings.ofDocument?_iff {p : ReportSettings} :
    ofDocument? r (.record fields) = some p ↔
      Setting.logLevel.readFrom? r (lookup "log_level" fields) = some p.level ∧
      Setting.jsonLogging.readFrom? r (lookup "json_logging" fields) = some p.json := by
  simp only [ofDocument?, Reading.fields?_record, Option.bind_eq_bind, Option.bind_some,
    Option.bind_eq_some_iff, Option.pure_def, Option.some.injEq]
  constructor
  · rintro ⟨level, first, json, second, rfl⟩
    exact ⟨first, second⟩
  · rintro ⟨first, second⟩
    exact ⟨_, first, _, second, rfl⟩

/-! ### All leaves -/

open Document (orElse_section at?_leaf at?_inside of_at?_inside)

theorem Settings.ofDocument?_iff_sections {s : Settings} :
    ofDocument? r (.record fields) = some s ↔
      (Setting.region.readFrom? r (lookup "region" fields) = some s.region ∧
        Setting.account.readFrom? r (lookup "account" fields) = some s.account) ∧
      orElse "access" (AccessSettings.ofDocument? r) .initial fields = some s.access ∧
      orElse "domain" (DomainSettings.ofDocument? r) .initial fields = some s.domain ∧
      orElse "network" (NetworkSettings.ofDocument? r) .initial fields = some s.network ∧
      orElse "load_balancer" (LoadBalancerSettings.ofDocument? r) .initial fields =
        some s.loadBalancer ∧
      orElse "observability" (ReportSettings.ofDocument? r) .initial fields = some s.report := by
  simp only [ofDocument?, Reading.fields?_record, Option.bind_eq_bind, Option.bind_some,
    Option.bind_eq_some_iff, Option.pure_def, Option.some.injEq]
  constructor
  · rintro ⟨_, region, _, account, _, access, _, domain, _, network, _, loadBalancer, _, report, rfl⟩
    exact ⟨⟨region, account⟩, access, domain, network, loadBalancer, report⟩
  · rintro ⟨⟨region, account⟩, access, domain, network, loadBalancer, report⟩
    exact ⟨_, region, _, account, _, access, _, domain, _, network, _, loadBalancer, _, report, rfl⟩

theorem Settings.ofDocument?_iff {s : Settings} (sectioned : (Document.record fields).Sectioned) :
    ofDocument? r (.record fields) = some s ↔ ∀ setting : Setting, setting.Reads r (.record fields) s := by
  rw [ofDocument?_iff_sections,
    orElse_section "access" sectioned (by decide) AccessSettings.ofDocument?_empty,
    orElse_section "domain" sectioned (by decide) DomainSettings.ofDocument?_empty,
    orElse_section "network" sectioned (by decide) NetworkSettings.ofDocument?_empty,
    orElse_section "load_balancer" sectioned (by decide) LoadBalancerSettings.ofDocument?_empty,
    orElse_section "observability" sectioned (by decide) ReportSettings.ofDocument?_empty,
    AccessSettings.ofDocument?_iff, DomainSettings.ofDocument?_iff, NetworkSettings.ofDocument?_iff,
    LoadBalancerSettings.ofDocument?_iff, ReportSettings.ofDocument?_iff]
  simp only [Setting.forall_iff, Setting.Reads, Setting.keys, at?_leaf, at?_inside, Setting.get]

/-- A leaf that has a value in a document is read from it, whatever the other sections hold. -/
theorem Setting.read?_of_at? {s : Settings} {setting : Setting} {value : Document}
    (read : Settings.ofDocument? r (.record fields) = some s)
    (shown : (Document.record fields).at? setting.keys = some value) :
    setting.read? r value = some (setting.get s) := by
  obtain ⟨⟨region, account⟩, access, domain, network, loadBalancer, report⟩ :=
    Settings.ofDocument?_iff_sections.mp read
  cases setting with
  | region => exact read?_of_readFrom? region ((at?_leaf _).symm.trans shown)
  | account => exact read?_of_readFrom? account ((at?_leaf _).symm.trans shown)
  | ipv4 =>
    obtain ⟨own, made, found⟩ := of_at?_inside access shown
    exact read?_of_readFrom? (AccessSettings.ofDocument?_iff.mp made).1 found
  | ipv6 =>
    obtain ⟨own, made, found⟩ := of_at?_inside access shown
    exact read?_of_readFrom? (AccessSettings.ofDocument?_iff.mp made).2.1 found
  | countries =>
    obtain ⟨own, made, found⟩ := of_at?_inside access shown
    exact read?_of_readFrom? (AccessSettings.ofDocument?_iff.mp made).2.2 found
  | domainName =>
    obtain ⟨own, made, found⟩ := of_at?_inside domain shown
    exact read?_of_readFrom? (DomainSettings.ofDocument?_iff.mp made).1 found
  | subDomain =>
    obtain ⟨own, made, found⟩ := of_at?_inside domain shown
    exact read?_of_readFrom? (DomainSettings.ofDocument?_iff.mp made).2 found
  | useCdn =>
    obtain ⟨own, made, found⟩ := of_at?_inside network shown
    exact read?_of_readFrom? (NetworkSettings.ofDocument?_iff.mp made).1 found
  | internal =>
    obtain ⟨own, made, found⟩ := of_at?_inside network shown
    exact read?_of_readFrom? (NetworkSettings.ofDocument?_iff.mp made).2.1 found
  | isolated =>
    obtain ⟨own, made, found⟩ := of_at?_inside network shown
    exact read?_of_readFrom? (NetworkSettings.ofDocument?_iff.mp made).2.2.1 found
  | vpcId =>
    obtain ⟨own, made, found⟩ := of_at?_inside network shown
    exact read?_of_readFrom? (NetworkSettings.ofDocument?_iff.mp made).2.2.2.1 found
  | natInstance =>
    obtain ⟨own, made, found⟩ := of_at?_inside network shown
    exact read?_of_readFrom? (NetworkSettings.ofDocument?_iff.mp made).2.2.2.2 found
  | idleTimeout =>
    obtain ⟨own, made, found⟩ := of_at?_inside loadBalancer shown
    exact read?_of_readFrom? (LoadBalancerSettings.ofDocument?_iff.mp made).1 found
  | logBucket =>
    obtain ⟨own, made, found⟩ := of_at?_inside loadBalancer shown
    exact read?_of_readFrom? (LoadBalancerSettings.ofDocument?_iff.mp made).2 found
  | logLevel =>
    obtain ⟨own, made, found⟩ := of_at?_inside report shown
    exact read?_of_readFrom? (ReportSettings.ofDocument?_iff.mp made).1 found
  | jsonLogging =>
    obtain ⟨own, made, found⟩ := of_at?_inside report shown
    exact read?_of_readFrom? (ReportSettings.ofDocument?_iff.mp made).2 found

end Sections

end Perimeter
