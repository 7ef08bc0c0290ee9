import Perimeter.Proofs.Firewall
import Perimeter.Secondary

/-!
The stack for objects of the CDN is always synthesised, and holds a certificate if a domain is
configured and a firewall if the policy restricts something (`synthesize_eq`).
-/

namespace Perimeter.Secondary

open Resource (names)

theorem isRequired_iff (s : Settings) (policy : Policy) :
    isRequired s policy = true ↔ Topology.Kind.ofSettings s = .fronted ∧
      (s.domain.isConfigured = true ∨ policy.isEmpty = false) := by
  simp [isRequired]

/-- The certificate, if a domain is configured. -/
def certificates (s : Settings) : List Resource :=
  (s.domain.name.map fun zone => .certificate (certificate zone)).toList

/-- The firewall with its sets, if the policy restricts something. -/
def firewalls (policy : Policy) : List Resource :=
  (Firewall.ofPolicy .cdn policy).resources webAclId .cdn

/-- The values that the stack offers. -/
def outputs (s : Settings) (policy : Policy) : List (String × String) :=
  (s.domain.name.map fun _ => (certificateOutput, (handle certificateId).text)).toList ++
    if policy.isEmpty then [] else [(firewallOutput, (handle webAclId).text)]

/-- What the stack offers to the application's stack. -/
def offer (s : Settings) (policy : Policy) : Binding where
  producer := stackName
  certificate := s.domain.name.map fun _ => (handle certificateId).exportedFrom stackName
  firewall := if policy.isEmpty then none else some ((handle webAclId).exportedFrom stackName)

/-- The stack with everything in it. -/
def complete (s : Settings) (policy : Policy) : Secondary :=
  ⟨⟨stackName, controlRegion, [], certificates s ++ firewalls policy, outputs s policy⟩,
    offer s policy⟩

theorem firewalls_eq_nil {policy : Policy} (empty : policy.isEmpty = true) : firewalls policy = [] := by
  rw [firewalls, Firewall.resources, if_pos]
  rw [Firewall.isEmpty_ofPolicy, empty]

theorem firewalls_eq {policy : Policy} (filled : policy.isEmpty = false) :
    firewalls policy = (Firewall.setsOf .cdn policy).map .ipSet ++
      [.webAcl ⟨webAclId, .cdn, .block, webAclId.text, Firewall.rulesOf .cdn policy⟩] := by
  rw [firewalls, Firewall.resources, if_neg]
  · rfl
  · rw [Firewall.isEmpty_ofPolicy, filled]
    exact Bool.false_ne_true

theorem mem_resources {s : Settings} {policy : Policy} {r : Resource} :
    r ∈ (complete s policy).stack.resources ↔
      (∃ zone, s.domain.name = some zone ∧ r = .certificate (certificate zone)) ∨
      policy.isEmpty = false ∧ ((∃ set ∈ Firewall.setsOf .cdn policy, r = .ipSet set) ∨
        r = .webAcl ⟨webAclId, .cdn, .block, webAclId.text, Firewall.rulesOf .cdn policy⟩) := by
  have parts : r ∈ (complete s policy).stack.resources ↔ r ∈ certificates s ∨ r ∈ firewalls policy :=
    List.mem_append
  rw [parts]
  refine or_congr ?_ ?_
  · simp only [certificates, Option.mem_toList, Option.map_eq_some_iff]
    exact exists_congr fun _ => and_congr_right fun _ => eq_comm
  · cases empty : policy.isEmpty with
    | true => simp [firewalls_eq_nil empty]
    | false => simp [firewalls_eq empty, eq_comm]

theorem mem_outputs {s : Settings} {policy : Policy} {output : String × String} :
    output ∈ outputs s policy ↔
      (∃ zone, s.domain.name = some zone ∧ output = (certificateOutput, (handle certificateId).text)) ∨
      policy.isEmpty = false ∧ output = (firewallOutput, (handle webAclId).text) := by
  rw [outputs, List.mem_append]
  refine or_congr ?_ ?_
  · simp only [Option.mem_toList, Option.map_eq_some_iff]
    exact exists_congr fun _ => and_congr_right fun _ => eq_comm
  · cases policy.isEmpty with
    | true => simp
    | false => simp

theorem names_firewalls (policy : Policy) :
    (names (firewalls policy)).Nodup ∧ certificateId.text ∉ names (firewalls policy) := by
  cases empty : policy.isEmpty with
  | true =>
    rw [firewalls_eq_nil empty]
    exact ⟨.nil, List.not_mem_nil⟩
  | false =>
    rw [firewalls, Firewall.names_resources empty]
    constructor
    · refine List.nodup_append.mpr ⟨Firewall.nodup_sets .cdn policy, List.nodup_singleton _, ?_⟩
      intro name listed _ last same
      have start := Firewall.head?_of_mem_sets listed
      rw [same, List.mem_singleton.mp last] at start
      cases start
    · intro member
      rcases List.mem_append.mp member with set | last
      · have start := Firewall.head?_of_mem_sets set
        cases start
      · exact absurd (List.mem_singleton.mp last) (by decide)

theorem disjoint_names (s : Settings) (policy : Policy) :
    (names (certificates s)).Disjoint (names (firewalls policy)) := by
  rw [certificates]
  cases s.domain.name with
  | none => exact List.disjoint_nil_left _
  | some zone => exact List.singleton_disjoint.mpr (names_firewalls policy).2

/-- No two resources of the stack share a name. -/
theorem nodup_complete (s : Settings) (policy : Policy) :
    (names (complete s policy).stack.resources).Nodup := by
  have all : names (complete s policy).stack.resources =
      names (certificates s) ++ names (firewalls policy) := List.map_append
  have few : (names (certificates s)).Nodup := by
    rw [certificates]
    cases s.domain.name with
    | none => exact .nil
    | some zone => exact List.nodup_singleton _
  rw [all]
  exact few.append (names_firewalls policy).1 (disjoint_names s policy)

/-- The stack with nothing but the certificate in it. -/
private def certified (s : Settings) : Secondary :=
  ⟨⟨stackName, controlRegion, [], certificates s,
      (s.domain.name.map fun _ => (certificateOutput, (handle certificateId).text)).toList⟩,
    ⟨stackName, s.domain.name.map fun _ => (handle certificateId).exportedFrom stackName, none⟩⟩

private theorem addCertificate_eq (s : Settings) :
    addCertificate s.domain.name ⟨.empty stackName controlRegion, ⟨stackName, none, none⟩⟩ =
      .ok (certified s) := by
  unfold certified certificates
  cases s.domain.name with
  | none => rfl
  | some zone =>
    have added : (Stack.empty stackName controlRegion).add (.certificate (certificate zone)) =
        .ok ((Stack.empty stackName controlRegion).push [.certificate (certificate zone)]) :=
      Stack.add_eq_ok_iff.mpr ⟨List.not_mem_nil, rfl⟩
    rw [addCertificate, added]
    rfl

private theorem addFirewall_eq (s : Settings) (policy : Policy) :
    addFirewall (Firewall.ofPolicy .cdn policy) (certified s) = .ok (complete s policy) := by
  unfold addFirewall
  rw [Firewall.isEmpty_ofPolicy]
  unfold complete outputs offer
  cases empty : policy.isEmpty with
  | true =>
    rw [firewalls_eq_nil empty, List.append_nil]
    simp only [if_true, List.append_nil]
    rfl
  | false =>
    have added : (certified s).stack.addAll (firewalls policy) =
        .ok ((certified s).stack.push (firewalls policy)) :=
      Stack.addAll_eq_ok_iff.mpr ⟨(names_firewalls policy).1, disjoint_names s policy, rfl⟩
    rw [firewalls] at added
    simp only [Bool.false_eq_true, if_false, added]
    unfold certified firewalls
    -- The key of the certificate comes before that of the firewall.
    cases s.domain.name with
    | none => rfl
    | some zone => rfl

/-- Synthesising the stack never fails. -/
theorem synthesize_eq (s : Settings) (policy : Policy) :
    synthesize s policy = .ok (if isRequired s policy then some (complete s policy) else none) := by
  unfold synthesize
  cases isRequired s policy with
  | false => rfl
  | true =>
    simp only [if_true, addCertificate_eq, Firewall.compile_eq, bind, Except.bind, addFirewall_eq]
    rfl

end Perimeter.Secondary
