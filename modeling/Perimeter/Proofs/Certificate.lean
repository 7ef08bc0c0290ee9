import Perimeter.Proofs.Admission

/-!
The certificate at the public entry point. A direct plan serves encrypted connections under a
certificate for the very host name; a fronted plan under one for every single label in front of the
zone. The latter covers the host name exactly if the configured sub-domain is one label
(`Plan.certificate_covers_iff`).
-/

namespace Perimeter

/-- A certificate covers a host that it names, and a host with a single label in front of what it
names behind `*.`. -/
def Certificate.Covers (c : Certificate) (host : String) : Prop :=
  ∃ name ∈ c.domain :: c.alternativeNames, name = host ∨
    ∃ label zone, name = "*." ++ zone ∧ host = label ++ "." ++ zone ∧ label ≠ "" ∧
      '.' ∉ label.toList

/-- The listeners of a stack, in order. -/
def Stack.listeners (s : Stack) : List Listener :=
  s.resources.filterMap fun
    | .listener r => some r
    | _ => none

namespace Plan

/-- The certificate whose reference a token of a stack is. -/
def certificate? (p : Plan) (consumer : Stack) (token : Token) : Option Certificate :=
  let owner := match token.stack with
    | none => some consumer
    | some name => p.find? name
  match owner.bind (·.find? token.resource.text) with
  | some (.certificate c) => if token.property = "Arn" then some c else none
  | _ => none

/-- The certificate under which clients are served: that of the listener where they reach the load
balancer, else that of the distribution. -/
def entryCertificate? (p : Plan) : Option Certificate := do
  let stack ← p.primary?
  let token ← match p.topology.kind with
    | .direct => stack.listeners.head?.bind (·.certificates.head?)
    | .fronted => stack.distributions.head?.bind (·.certificate)
  p.certificate? stack token

end Plan

/-! ### Host names -/

theorem Topology.covers_directCertificate (domain : CustomDomain) :
    (directCertificate domain).Covers domain.hostName :=
  ⟨_, List.mem_cons_self .., .inl rfl⟩

/-- The certificate of a zone covers what has one label in front of the zone, and nothing else that
lies below it. -/
theorem Secondary.covers_certificate_iff (sub zone : String) :
    (certificate zone).Covers (sub ++ "." ++ zone) ↔ sub ≠ "" ∧ '.' ∉ sub.toList := by
  constructor
  · rintro ⟨name, listed, covered⟩
    rcases List.mem_cons.mp listed with rfl | own
    · rcases covered with same | ⟨label, rest, named, host, filled, plain⟩
      · -- The host is the wildcard itself, so the sub-domain is a star.
        have star : sub = "*" := by
          have split : "*" ++ "." ++ zone = sub ++ "." ++ zone := same
          rwa [String.append_left_inj, String.append_left_inj, eq_comm] at split
        rw [star]
        decide
      · cases (String.append_right_inj _).mp named
        rw [String.append_left_inj, String.append_left_inj] at host
        exact host ▸ ⟨filled, plain⟩
    · cases List.mem_singleton.mp own
      rcases covered with same | ⟨label, rest, rfl, host, _, plain⟩
      · -- A zone is shorter than what lies below it.
        have lengths := congrArg String.length same
        simp only [String.length_append] at lengths
        have dot : ".".length = 1 := by decide
        omega
      · -- A zone that is a wildcard itself has a dot in front of its star.
        have joined : sub ++ ".*" ++ "." ++ rest = label ++ "." ++ rest :=
          calc sub ++ ".*" ++ "." ++ rest
            _ = sub ++ (".*" ++ ".") ++ rest := congrArg (· ++ rest) String.append_assoc
            _ = sub ++ ("." ++ "*.") ++ rest := rfl
            _ = sub ++ "." ++ ("*." ++ rest) := by simp only [String.append_assoc]
            _ = label ++ "." ++ rest := host
        rw [String.append_left_inj, String.append_left_inj] at joined
        rw [← joined] at plain
        simp at plain
  · rintro ⟨filled, plain⟩
    exact ⟨"*." ++ zone, List.mem_cons_self .., .inr ⟨sub, zone, rfl, rfl, filled, plain⟩⟩

/-- Accepted settings have a sub-domain with at least one character. -/
theorem Settings.effectiveSub_ne_empty {s : Settings} (sound : s.broken = []) :
    s.domain.effectiveSub ≠ "" := by
  have within : lengthWithin 1 (some 63) s.domain.sub = true := by
    have kept := List.filter_eq_nil_iff.mp sound
    simpa using kept ⟨some "domain", "sub_domain", "Sub-domain must be 1-63 characters",
      fun s => lengthWithin 1 (some 63) s.domain.sub⟩ (by simp [limits])
  unfold DomainSettings.effectiveSub
  cases given : s.domain.sub with
  | none => decide
  | some sub =>
    rw [given] at within
    rintro rfl
    cases within

/-! ### The way to the certificate -/

/-- A direct topology has one listener. -/
theorem Topology.listeners_direct {d : DirectTopology} {first : List Resource}
    (made : (direct d).before = .ok first) (name region : String) (planner : Planner) :
    ((direct d).filled name region first planner).listeners = [directListener d.domain] := by
  obtain ⟨rules, _, rfl⟩ := before_direct made
  unfold Stack.listeners
  rw [filterMap_direct _ _ _ (fun _ => rfl) (fun _ => rfl) (fun _ => rfl)]
  cases d.domain with
  | none => simp
  | some domain => simp

/-- A direct topology with a domain brings the certificate for its host name. -/
theorem Topology.certificate_mem_filled {d : DirectTopology} {first : List Resource}
    (made : (direct d).before = .ok first) {domain : CustomDomain} (published : d.domain = some domain)
    (name region : String) (planner : Planner) :
    .certificate (directCertificate domain) ∈
      ((direct d).filled name region first planner).resources := by
  obtain ⟨rules, _, rfl⟩ := before_direct made
  rw [((direct d).filled_eq name region _ planner).2]
  simp [published]

namespace Plan

theorem certificate?_of_local {p : Plan} {consumer : Stack} {id : LogicalId} {c : Certificate}
    (found : consumer.find? id.text = some (.certificate c)) :
    p.certificate? consumer (.attr id "Arn") = some c := by
  simp only [certificate?, Token.attr, Option.bind_some, found, if_true]

theorem certificate?_of_exported {p : Plan} {name : String} {owner : Stack}
    (known : p.find? name = some owner) {id : LogicalId} {c : Certificate}
    (found : owner.find? id.text = some (.certificate c)) (consumer : Stack) :
    p.certificate? consumer ((Token.attr id "Arn").exportedFrom name) = some c := by
  simp only [certificate?, Token.exportedFrom, Token.attr, known, Option.bind_some, found, if_true]

theorem entryCertificate?_of_listener {p : Plan} {stack : Stack} (primary : p.primary? = some stack)
    (shape : p.topology.kind = .direct) {listener : Listener} (only : stack.listeners = [listener])
    {token : Token} (carried : listener.certificates = [token]) :
    p.entryCertificate? = p.certificate? stack token := by
  simp [entryCertificate?, primary, shape, only, carried]

theorem entryCertificate?_of_distribution {p : Plan} {stack : Stack}
    (primary : p.primary? = some stack) (shape : p.topology.kind = .fronted)
    {distribution : Distribution} (only : stack.distributions = [distribution]) {token : Token}
    (carried : distribution.certificate = some token) :
    p.entryCertificate? = p.certificate? stack token := by
  simp [entryCertificate?, primary, shape, only, carried]

/-- The certificate that a shape brings to its entry point. -/
def shapeCertificate (domain : CustomDomain) : Topology.Kind → Certificate
  | .direct => Topology.directCertificate domain
  | .fronted => Secondary.certificate domain.zone

/-- The certificate at the entry point of an assembled plan is that of its shape. -/
theorem entryCertificate?_eq {s : Settings} {routes : List Route} {p : Plan}
    (ok : assemble s routes = .ok p) {domain : CustomDomain}
    (published : Topology.customDomain? s = some domain) :
    p.entryCertificate? = some (shapeCertificate domain p.topology.kind) := by
  obtain ⟨policy, first, start, chosen, held, _⟩ := parts_of_assemble ok
  have primary := primary?_eq held
  have wanted := kind_of_assemble ok
  have taken := Topology.domain?_ofSettings s policy
  have distinct := Topology.nodup_filled start primaryName s.region routes
  rw [published] at taken
  rw [Topology.kind_ofSettings] at distinct
  cases shape : Topology.ofSettings s policy with
  | direct d =>
    rw [shape] at start primary taken distinct
    have listeners := Topology.listeners_direct start primaryName s.region
      ((Topology.Kind.ofSettings s).planner.run routes)
    rw [show d.domain = some domain from taken] at listeners
    have member := Topology.certificate_mem_filled start taken primaryName s.region
      ((Topology.Kind.ofSettings s).planner.run routes)
    have found := Stack.find?_of_nodup distinct member
    have direct : p.topology.kind = .direct := by
      rw [chosen, shape]
      rfl
    rw [direct, entryCertificate?_of_listener primary direct listeners rfl]
    exact certificate?_of_local found
  | fronted f =>
    have carried := Topology.certificate_ofSettings shape
    have fronted : p.topology.kind = .fronted := by
      rw [chosen, shape]
      rfl
    rw [shape] at start primary
    rw [fronted] at wanted
    cases start
    obtain ⟨zone, named, rfl⟩ := Option.map_eq_some_iff.mp published
    have required : Secondary.isRequired s policy = true :=
      (Secondary.isRequired_iff s policy).mpr
        ⟨wanted.symm, .inl (by simp [DomainSettings.isConfigured, named])⟩
    rw [Secondary.offer, named] at carried
    have found := Stack.find?_of_nodup (Secondary.nodup_complete s policy)
      (Secondary.mem_resources.mpr (.inl ⟨_, named, rfl⟩))
    rw [fronted, entryCertificate?_of_distribution primary fronted (distributions_fronted ..) carried]
    exact certificate?_of_exported (find?_secondary held required) found _

/-- Where an assembled plan is reached is the host name of the settings. -/
theorem baseUrl_of_published {s : Settings} {routes : List Route} {p : Plan}
    (ok : assemble s routes = .ok p) {domain : CustomDomain}
    (published : Topology.customDomain? s = some domain) :
    p.baseUrl = "https://" ++ domain.hostName := by
  obtain ⟨policy, _, _, _, _, reached⟩ := parts_of_assemble ok
  have taken := Topology.domain?_ofSettings s policy
  rw [reached]
  unfold Topology.baseUrl
  rw [taken, published]

/-- Where an assembled plan publishes a host name, clients are served under a certificate of the
plan. It covers the host name of a direct plan always, and that of a fronted plan exactly if the
sub-domain is a single label. -/
theorem certificate_covers_iff {s : Settings} {routes : List Route} {p : Plan}
    (ok : assemble s routes = .ok p) {zone : String} (named : s.domain.name = some zone) :
    ∃ host c, s.domain.hostName = some host ∧ p.baseUrl = "https://" ++ host ∧
      p.entryCertificate? = some c ∧
      (c.Covers host ↔ p.topology.kind = .direct ∨ '.' ∉ s.domain.effectiveSub.toList) := by
  have published : Topology.customDomain? s = some ⟨zone, s.domain.effectiveSub⟩ := by
    rw [Topology.customDomain?, named]
    rfl
  obtain ⟨sound, _⟩ := s.validate_eq_ok_iff.mp (of_assemble ok).1
  refine ⟨_, _, ?_, baseUrl_of_published ok published, entryCertificate?_eq ok published, ?_⟩
  · rw [DomainSettings.hostName, named]
    rfl
  · cases p.topology.kind with
    | direct => simp [shapeCertificate, Topology.covers_directCertificate]
    | fronted =>
      have filled := Settings.effectiveSub_ne_empty sound
      simp only [shapeCertificate, CustomDomain.hostName, Secondary.covers_certificate_iff, reduceCtorEq,
        false_or, filled, ne_eq, not_false_eq_true, true_and]

/-- Settings with a domain and no sub-domain of their own. -/
private def hosted : Settings :=
  { Settings.initial with domain := ⟨some "example.org", none⟩ }

/-- Behind the CDN, the default sub-domain is covered. -/
theorem certificate_covers_iff_hosted :
    ∃ p c, assemble hosted Route.services = .ok p ∧ p.baseUrl = "https://app.example.org" ∧
      p.entryCertificate? = some c ∧ c.Covers "app.example.org" := by
  obtain ⟨p, outcome⟩ : ∃ p, assemble hosted Route.services = .ok p :=
    Outcome.exists_ok_of_isOk (by decide +kernel)
  obtain ⟨host, c, full, url, found, covers⟩ := certificate_covers_iff outcome rfl
  cases (show some "app.example.org" = some host from full)
  exact ⟨p, c, outcome, url, found, covers.mpr (.inr (by decide))⟩

/-- Settings with a sub-domain of two labels. -/
private def nested : Settings :=
  { Settings.initial with domain := ⟨some "example.com", some "eu.app"⟩ }

/-- The settings are accepted, and clients are served under a certificate of other names. -/
theorem nested_not_covered :
    ∃ p c, assemble nested [] = .ok p ∧ p.baseUrl = "https://eu.app.example.com" ∧
      p.entryCertificate? = some c ∧ ¬ c.Covers "eu.app.example.com" := by
  obtain ⟨p, outcome⟩ : ∃ p, assemble nested [] = .ok p :=
    Outcome.exists_ok_of_isOk (by decide +kernel)
  have domain : Topology.customDomain? nested = some ⟨"example.com", "eu.app"⟩ := rfl
  have fronted : p.topology.kind = .fronted := kind_of_assemble outcome
  have found := entryCertificate?_eq outcome domain
  rw [fronted] at found
  refine ⟨p, _, outcome, baseUrl_of_published outcome domain, found, ?_⟩
  intro covered
  exact ((Secondary.covers_certificate_iff "eu.app" "example.com").mp covered).2 (by decide)

end Plan

end Perimeter
