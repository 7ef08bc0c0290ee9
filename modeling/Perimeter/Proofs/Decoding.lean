import Perimeter.Decoding.Input
import Perimeter.Encoding.Input
import Perimeter.Proofs.Encoding.Parts

/-!
Inputs read back from their documents. Settings, routes, health profiles and policies are each read
as what was written (`decoding_undoes_encoding`).
-/

namespace Perimeter

open Reading (exact)

namespace Document

variable {α : Type} {read : Document → Option α} {write : α → Document}

theorem optional?_of_ne {d : Document} (filled : d ≠ null) : optional? read d = (read d).map some := by
  cases d with
  | null => exact absurd rfl filled
  | _ => rfl

/-- Every value is read back from the document that it is written as. -/
def Restores (read : Document → Option α) (write : α → Document) : Prop :=
  ∀ a, read (write a) = some a

/-- Writing loses nothing that reading sees. -/
structure Undoes (read : Document → Option α) (write : α → Document) : Prop where
  /-- Every value is read back from its document. -/
  value : ∀ a, read (write a) = some a
  /-- What is read from any document is read again when it has been written. -/
  document : ∀ d, ((read d).map write).bind read = read d

namespace Restores

theorem undoes (restores : Restores read write) : Undoes read write := by
  refine ⟨restores, fun d => ?_⟩
  cases read d with
  | none => rfl
  | some a => exact restores a

theorem ne_null (restores : Restores read write) (refused : read null = none) (a : α) :
    write a ≠ null := by
  intro empty
  have back := restores a
  rw [empty, refused] at back
  cases back

/-- Null stands for a value that is not set where it stands for no value. -/
theorem optional (restores : Restores read write) (refused : read null = none) :
    Restores (optional? read) (optional write) := by
  intro a
  cases a with
  | none => rfl
  | some a =>
    calc optional? read (write a)
      _ = (read (write a)).map some := optional?_of_ne (restores.ne_null refused a)
      _ = some (some a) := by rw [restores a, Option.map_some]

theorem list (restores : Restores read write) :
    Restores (list? read) fun as => .list (as.map write) := by
  intro as
  change (as.map write).mapM read = some as
  induction as with
  | nil => rfl
  | cons a as ih =>
    rw [List.map_cons, List.mapM_cons, restores a, ih]
    rfl

/-- A set is read back from the list of its members. -/
theorem ascending [Ranked α] (restores : Restores read write) :
    Restores (Ascending.ofDocument? read) fun set => .list (set.toList.map write) := by
  intro set
  have members : Ascending.ofList set.toList = set := Ascending.ext_mem fun _ => Ascending.mem_ofList
  rw [Ascending.ofDocument?, restores.list set.toList, Option.map_some, members]

end Restores

/-! ### Single values -/

theorem restores_text : Restores exact.text? text := fun _ => rfl

theorem restores_truth : Restores exact.truth? bool := fun _ => rfl

theorem exactNatural?_natural {bound n : Nat} (below : n < bound) :
    exact.natural? bound (natural n) = some n := by
  simp [exact, Reading.exactNatural?, natural, below]

@[simp] theorem uint16?_natural (n : UInt16) : exact.uint16? (natural n.toNat) = some n := by
  rw [Reading.uint16?, exactNatural?_natural n.toNat_lt, Option.map_some, UInt16.ofNat_toNat]

@[simp] theorem uint32?_natural (n : UInt32) : exact.uint32? (natural n.toNat) = some n := by
  rw [Reading.uint32?, exactNatural?_natural n.toNat_lt, Option.map_some, UInt32.ofNat_toNat]

@[simp] theorem uint64?_natural (n : UInt64) : exact.uint64? (natural n.toNat) = some n := by
  rw [Reading.uint64?, exactNatural?_natural n.toNat_lt, Option.map_some, UInt64.ofNat_toNat]

theorem restores_parsed {parse : String → Except Error α} {word : α → String}
    (inverse : ∀ a, parse (word a) = .ok a) : Restores (parsed? parse) (text ∘ word) := by
  intro a
  simp [parsed?, Reading.exactText?, inverse, Except.toOption]

theorem restores_texts : Restores (list? exact.text?) texts := restores_text.list

/-! ### Fields -/

section Fields

variable {key k : String} {d : Document} {rest : List (String × Document)}

theorem lookup_cons : lookup key ((k, d) :: rest) = if k = key then some d else lookup key rest := by
  by_cases same : k = key <;> simp [lookup, same]

@[simp] theorem required_cons :
    required key read ((k, d) :: rest) = if k = key then read d else required key read rest := by
  by_cases same : k = key <;> simp [required, lookup_cons, same]

@[simp] theorem orElse_cons {initial : α} : orElse key read initial ((k, d) :: rest) =
    if k = key then read d else orElse key read initial rest := by
  by_cases same : k = key <;> simp [orElse, lookup_cons, same]

@[simp] theorem orNone_cons : orNone key read ((k, d) :: rest) =
    if k = key then optional? read d else orNone key read rest := orElse_cons

end Fields

end Document

open Document

@[simp] theorem Reading.fields?_record (r : Reading) (keys : List String)
    (fields : List (String × Document)) : r.fields? keys (.record fields) = some fields := rfl

/-! ### Routes and health checks -/

theorem HealthCheck.restores : Restores ofDocument? toDocument := by
  intro check
  have path := restores_text check.path
  have interval := Restores.optional uint64?_natural rfl check.interval
  have healthy := Restores.optional uint32?_natural rfl check.healthyThreshold
  have unhealthy := Restores.optional uint32?_natural rfl check.unhealthyThreshold
  have codes := restores_text.optional rfl check.healthyCodes
  simp [ofDocument?, toDocument, path, interval, healthy, unhealthy, codes]

theorem HealthProfile.restores : Restores ofDocument? toDocument := by
  intro profile
  have codes := restores_text profile.healthyCodes
  -- Unfolding alone would make the kernel count up to the bounds of the numbers.
  simp -implicitDefEqProofs [ofDocument?, toDocument, codes]

theorem Route.restores : Restores ofDocument? toDocument := by
  intro r
  have service : Ident.ofDocument? .service (text r.service.text) = some r.service :=
    restores_parsed (fun _ => Ident.ofText_eq_ok.mpr rfl) r.service
  have health := HealthCheck.restores r.health
  have paths := restores_texts r.paths
  simp [ofDocument?, toDocument, service, health, paths]

/-! ### Policies -/

theorem Cidr.restores : Restores ofDocument? (Document.text ∘ Cidr.text) :=
  restores_parsed ofText_text

theorem Country.restores : Restores ofDocument? (Document.text ∘ Country.text) :=
  restores_parsed ofText_text

theorem Policy.restores : Restores ofDocument? toDocument := by
  intro p
  have ipv4 := Cidr.restores.ascending p.ipv4
  have ipv6 := Cidr.restores.ascending p.ipv6
  have countries := Country.restores.ascending p.countries
  simp [ofDocument?, toDocument, texts, ipv4, ipv6, countries]

/-! ### Settings -/

theorem AccessSettings.restores : Restores (ofDocument? exact) toDocument := by
  intro a
  have ipv4 := restores_texts.optional rfl a.ipv4
  have ipv6 := restores_texts.optional rfl a.ipv6
  have countries := restores_texts.optional rfl a.countries
  simp [ofDocument?, toDocument, ipv4, ipv6, countries]

theorem DomainSettings.restores : Restores (ofDocument? exact) toDocument := by
  intro d
  have name := restores_text.optional rfl d.name
  have sub := restores_text.optional rfl d.sub
  simp [ofDocument?, toDocument, name, sub]

theorem NetworkSettings.restores : Restores (ofDocument? exact) toDocument := by
  intro n
  have useCdn := restores_truth n.useCdn
  have internal := restores_truth.optional rfl n.internal
  have isolated := restores_truth.optional rfl n.isolated
  have vpcId := restores_text.optional rfl n.vpcId
  have natInstance := restores_truth.optional rfl n.natInstance
  simp [ofDocument?, toDocument, useCdn, internal, isolated, vpcId, natInstance]

theorem LoadBalancerSettings.restores : Restores (ofDocument? exact) toDocument := by
  intro l
  have logBucket := restores_text l.logBucket
  simp -implicitDefEqProofs [ofDocument?, toDocument, logBucket]

theorem ReportSettings.restores : Restores (ofDocument? exact) toDocument := by
  intro r
  have level := restores_text r.level
  have json := restores_truth r.json
  simp [ofDocument?, toDocument, level, json]

theorem Settings.restores : Restores (ofDocument? exact) toDocument := by
  intro s
  have region := restores_text s.region
  have account := restores_text.optional rfl s.account
  have access := AccessSettings.restores s.access
  have domain := DomainSettings.restores s.domain
  have network := NetworkSettings.restores s.network
  have loadBalancer := LoadBalancerSettings.restores s.loadBalancer
  have report := ReportSettings.restores s.report
  simp [ofDocument?, toDocument, region, account, access, domain, network, loadBalancer, report]

/-- Every input is read back from its document, and reading, writing and reading again is the same as
reading once. -/
theorem decoding_undoes_encoding :
    Undoes (Settings.ofDocument? exact) Settings.toDocument ∧
      Undoes Route.ofDocument? Route.toDocument ∧
      Undoes HealthProfile.ofDocument? HealthProfile.toDocument ∧
      Undoes Policy.ofDocument? Policy.toDocument :=
  ⟨Settings.restores.undoes, Route.restores.undoes, HealthProfile.restores.undoes,
    Policy.restores.undoes⟩

end Perimeter
