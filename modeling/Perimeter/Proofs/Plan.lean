import Perimeter.Plan
import Perimeter.Proofs.Secondary
import Perimeter.Proofs.Settings
import Perimeter.Proofs.Topology

/-!
Assembling a plan. Once settings are accepted, nothing can fail but the registration of a route:
the stack for the CDN is synthesised, it offers what the topology asks for, and no two resources
share a name. So a plan is determined by the policy and by the planner in which all routes are
registered (`assemble_eq`).
-/

namespace Perimeter

/-- A failure of putting parts together: another region lacks something, or a name within a stack is
given twice. -/
def Error.IsWiring (e : Error) : Prop :=
  (∃ message, e = .crossRegion message) ∨ ∃ stack id, e = Stack.nameTaken stack id

theorem Error.not_wiring_validation (message : String) (field : Option String) :
    ¬ (validation message field).IsWiring := by
  rintro (⟨_, impossible⟩ | ⟨_, _, impossible⟩)
  · cases impossible
  · cases impossible

theorem Error.not_wiring_conflict (first second message : String) :
    ¬ (conflict first second message).IsWiring := by
  rintro (⟨_, impossible⟩ | ⟨_, _, impossible⟩)
  · cases impossible
  · cases impossible

/-- The text of a refusal starts with another word than that of a taken name. -/
private theorem Planner.Refusal.error_eq (listener : LogicalId) (service : ServiceId)
    (refusal : Refusal) : ∃ text, refusal.error listener service = .constraint text ∧
      text.toList.take 2 ≠ ['s', 't'] := by
  cases refusal with
  | registered => exact ⟨_, rfl, by simp⟩
  | shadowed pattern earlier owner => exact ⟨_, rfl, by simp⟩
  | noRoom needed room => exact ⟨_, rfl, by simp⟩
  | noPriorities => exact ⟨_, rfl, by simp⟩

theorem Planner.Refusal.not_wiring (listener : LogicalId) (service : ServiceId) (refusal : Refusal) :
    ¬ (refusal.error listener service).IsWiring := by
  obtain ⟨text, same, start⟩ := refusal.error_eq listener service
  rw [same]
  rintro (⟨_, impossible⟩ | ⟨stack, id, taken⟩)
  · cases impossible
  · rw [Stack.nameTaken, Error.constraint.injEq] at taken
    apply start
    rw [taken]
    simp

namespace Topology

/-- The topology that the settings ask for, with what the other stack offers if there is one. -/
def ofSettings (s : Settings) (policy : Policy) : Topology :=
  match Kind.ofSettings s with
  | .direct => .direct (selectDirect s policy)
  | .fronted => .fronted
    ⟨customDomain? s, (Secondary.offer s policy).certificate, (Secondary.offer s policy).firewall,
      if Secondary.isRequired s policy then some Secondary.stackName else none, s.loadBalancer⟩

theorem kind_ofSettings (s : Settings) (policy : Policy) :
    (ofSettings s policy).kind = Kind.ofSettings s := by
  unfold ofSettings
  cases Kind.ofSettings s with
  | direct => rfl
  | fronted => rfl

/-- Either shape is published under the name of the settings. -/
theorem domain?_ofSettings (s : Settings) (policy : Policy) :
    (ofSettings s policy).domain? = customDomain? s := by
  unfold ofSettings
  cases Kind.ofSettings s with
  | direct =>
    show (selectDirect s policy).domain = customDomain? s
    unfold selectDirect
    split
    · rfl
    · rfl
  | fronted => rfl

/-- A fronted shape has been given the certificate that the other stack offers. -/
theorem certificate_ofSettings {s : Settings} {policy : Policy} {f : FrontedTopology}
    (shape : ofSettings s policy = .fronted f) :
    f.certificate = (Secondary.offer s policy).certificate := by
  unfold ofSettings at shape
  cases kind : Kind.ofSettings s with
  | direct =>
    rw [kind] at shape
    cases shape
  | fronted =>
    rw [kind] at shape
    cases shape
    rfl

/-- What the other stack offers is all that is needed. -/
theorem select_eq {s : Settings} {policy : Policy} (made : s.policy = .ok policy) :
    select s ((if Secondary.isRequired s policy then some (Secondary.complete s policy)
      else none).map (·.binding)) = .ok (ofSettings s policy) := by
  unfold select ofSettings
  rw [made]
  cases shape : Kind.ofSettings s with
  | direct => rfl
  | fronted =>
    have required : Secondary.isRequired s policy = (s.domain.name.isSome || !policy.isEmpty) := by
      rw [Secondary.isRequired, shape]
      rfl
    unfold Secondary.complete Secondary.offer customDomain?
    rw [required]
    cases s.domain.name with
    | none =>
      cases empty : policy.isEmpty with
      | true => simp [lack?, empty, bind, Except.bind, pure, Except.pure]
      | false => simp [lack?, empty, bind, Except.bind, pure, Except.pure]
    | some zone =>
      cases empty : policy.isEmpty with
      | true => simp [lack?, empty, bind, Except.bind, pure, Except.pure]
      | false => simp [lack?, empty, bind, Except.bind, pure, Except.pure]

theorem ingress_selectDirect (s : Settings) (policy : Policy) :
    (selectDirect s policy).ingress = policy.ingressRanges := by
  unfold selectDirect
  split
  · rfl
  · rfl

/-- The ingress rules of a policy are not too many to be numbered. -/
theorem exists_before (s : Settings) (policy : Policy) :
    ∃ first, (ofSettings s policy).before = .ok first := by
  rw [exists_before_iff]
  unfold ofSettings
  cases Kind.ofSettings s with
  | fronted => exact Nat.zero_le _
  | direct =>
    have bound := policy.length_ingressRanges
    simp only [ranges]
    rw [ingress_selectDirect]
    omega

end Topology

namespace Plan

/-- The stacks of a plan, given the resources in front of the routes and the final planner. -/
def stacksOf (s : Settings) (policy : Policy) (first : List Resource) (p : Planner) : List Stack :=
  (if Secondary.isRequired s policy then [(Secondary.complete s policy).stack] else []) ++
    [(Topology.ofSettings s policy).filled primaryName s.region first p]

/-- Under accepted settings, a plan is assembled as soon as all routes are registered. -/
theorem assemble_eq {s : Settings} (valid : s.validate = .ok ()) {policy : Policy}
    (made : s.policy = .ok policy) {first : List Resource}
    (start : (Topology.ofSettings s policy).before = .ok first) (routes : List Route) :
    assemble s routes =
      ((Topology.Kind.ofSettings s).planner.registerAll routes).map fun result =>
        ⟨Topology.ofSettings s policy, stacksOf s policy first result.2,
          (Topology.ofSettings s policy).baseUrl, result.1⟩ := by
  have build := Topology.build_empty start primaryName s.region routes
  rw [Topology.planner_eq, Topology.kind_ofSettings] at build
  unfold assemble
  simp only [valid, made, Secondary.synthesize_eq, Topology.select_eq made, build, bind, Except.bind]
  cases (Topology.Kind.ofSettings s).planner.registerAll routes with
  | error e => rfl
  | ok result =>
    unfold stacksOf
    cases Secondary.isRequired s policy with
    | true => rfl
    | false => rfl

theorem exists_start {s : Settings} (valid : s.validate = .ok ()) :
    ∃ policy first, s.policy = .ok policy ∧ (Topology.ofSettings s policy).before = .ok first := by
  obtain ⟨_, _, policy, made⟩ := s.validate_eq_ok_iff.mp valid
  obtain ⟨first, start⟩ := Topology.exists_before s policy
  exact ⟨policy, first, made, start⟩

/-- What an assembled plan is made of. -/
theorem of_assemble {s : Settings} {routes : List Route} {p : Plan} (ok : assemble s routes = .ok p) :
    s.validate = .ok () ∧ (Topology.Kind.ofSettings s).planner.AcceptsAll routes ∧
    ∃ policy first, s.policy = .ok policy ∧ (Topology.ofSettings s policy).before = .ok first ∧
      p = ⟨Topology.ofSettings s policy,
        stacksOf s policy first ((Topology.Kind.ofSettings s).planner.run routes),
        (Topology.ofSettings s policy).baseUrl,
        ((Topology.Kind.ofSettings s).planner.accepted routes).map (·.2)⟩ := by
  obtain ⟨_, valid, _⟩ := Outcome.bind_eq_ok.mp ok
  obtain ⟨policy, first, made, start⟩ := exists_start valid
  rw [assemble_eq valid made start] at ok
  rcases (Topology.Kind.ofSettings s).planner.registerAll_cases routes with
    ⟨all, _, registered⟩ | ⟨e, _, _, _, failed⟩
  · rw [registered] at ok
    cases ok
    exact ⟨valid, all, policy, first, made, start, rfl⟩
  · rw [failed] at ok
    cases ok

/-- The parts of an assembled plan, one by one. -/
theorem parts_of_assemble {s : Settings} {routes : List Route} {p : Plan}
    (ok : assemble s routes = .ok p) :
    ∃ policy first, (Topology.ofSettings s policy).before = .ok first ∧
      p.topology = Topology.ofSettings s policy ∧
      p.allStacks = stacksOf s policy first ((Topology.Kind.ofSettings s).planner.run routes) ∧
      p.baseUrl = (Topology.ofSettings s policy).baseUrl := by
  obtain ⟨_, _, policy, first, _, start, rfl⟩ := of_assemble ok
  exact ⟨policy, first, start, rfl, rfl, rfl⟩

theorem kind_of_assemble {s : Settings} {routes : List Route} {p : Plan}
    (ok : assemble s routes = .ok p) : p.topology.kind = Topology.Kind.ofSettings s := by
  obtain ⟨policy, _, _, chosen, _⟩ := parts_of_assemble ok
  rw [chosen, Topology.kind_ofSettings]

section Stacks

variable {p : Plan} {s : Settings} {policy : Policy} {first : List Resource} {planner : Planner}
  (held : p.allStacks = stacksOf s policy first planner)

include held

/-- The application's stack is found behind that for the CDN. -/
theorem primary?_eq :
    p.primary? = some ((Topology.ofSettings s policy).filled primaryName s.region first planner) := by
  have named := ((Topology.ofSettings s policy).filled_eq primaryName s.region first planner).1
  have last : [(Topology.ofSettings s policy).filled primaryName s.region first planner].find?
      (fun stack => stack.name == primaryName) =
        some ((Topology.ofSettings s policy).filled primaryName s.region first planner) :=
    List.find?_cons_of_pos (by rw [named]; exact beq_self_eq_true _)
  unfold primary? find?
  rw [held, stacksOf]
  cases Secondary.isRequired s policy with
  | true => exact last
  | false => exact last

theorem find?_secondary (required : Secondary.isRequired s policy = true) :
    p.find? Secondary.stackName = some (Secondary.complete s policy).stack := by
  unfold find?
  rw [held, stacksOf, required]
  rfl

end Stacks

/-! ### Failures -/

private theorem not_wiring_of_register {p : Planner} (counted : p.Counted) {r : Route} {e : Error}
    (failed : (p.register r).1 = .error e) : ¬ e.IsWiring := by
  rcases Planner.register_cases counted r with ⟨e', refused, outcome⟩ | ⟨group, pairs, _, outcome⟩
  · rw [outcome] at failed
    cases failed
    rcases Planner.of_prepare_eq_error refused with ⟨fault, rfl⟩ | ⟨refusal, rfl⟩ | ⟨name, rfl⟩
    · exact Error.not_wiring_validation (fault.wording r) _
    · exact refusal.not_wiring p.listener r.service
    · exact Error.not_wiring_validation _ _
  · rw [outcome] at failed
    cases failed

/-- Validation is complete: a plan can be assembled exactly if the settings are accepted and a fresh
planner accepts all routes in order, and otherwise the failure is that of the settings or of the
first route that is not accepted. No later step can fail, whatever the settings are. -/
theorem validation_complete (s : Settings) (routes : List Route) :
    let fresh := (Topology.Kind.ofSettings s).planner
    ((∃ p, assemble s routes = .ok p) ↔ s.validate = .ok () ∧ fresh.AcceptsAll routes) ∧
    (∀ e, assemble s routes = .error e ↔
      s.validate = .error e ∨ s.validate = .ok () ∧ fresh.FirstRefusal routes e) ∧
    (s.validate = .ok () → ∃ policy secondary topology, s.policy = .ok policy ∧
      Secondary.synthesize s policy = .ok secondary ∧
      Topology.select s (secondary.map (·.binding)) = .ok topology ∧ topology.planner = fresh ∧
      ∀ e, topology.build (.empty primaryName s.region) routes = .error e ↔
        fresh.FirstRefusal routes e) ∧
    ∀ e, assemble s routes = .error e → ¬ e.IsWiring := by
  intro fresh
  have failures : ∀ e, assemble s routes = .error e ↔
      s.validate = .error e ∨ s.validate = .ok () ∧ fresh.FirstRefusal routes e := by
    intro e
    cases checked : s.validate with
    | error e' =>
      have failed : assemble s routes = .error e' := by
        rw [assemble, checked]
        rfl
      rw [failed]
      simp
    | ok _ =>
      obtain ⟨policy, first, made, start⟩ := exists_start checked
      rw [assemble_eq checked made start, Outcome.map_eq_error, Planner.registerAll_eq_error_iff]
      simp [fresh]
  refine ⟨?_, failures, ?_, ?_⟩
  · rw [Outcome.exists_ok_iff, Planner.acceptsAll_iff]
    constructor
    · intro none
      cases checked : s.validate with
      | error e => exact absurd ((failures e).mpr (.inl checked)) (none e)
      | ok _ => exact ⟨rfl, fun e refused => none e ((failures e).mpr (.inr ⟨checked, refused⟩))⟩
    · rintro ⟨valid, none⟩ e failed
      rcases (failures e).mp failed with invalid | ⟨_, refused⟩
      · cases valid.symm.trans invalid
      · exact none e refused
  · intro valid
    obtain ⟨policy, first, made, start⟩ := exists_start valid
    have planner : (Topology.ofSettings s policy).planner = fresh := by
      rw [Topology.planner_eq, Topology.kind_ofSettings]
    refine ⟨policy, _, Topology.ofSettings s policy, made, Secondary.synthesize_eq s policy,
      Topology.select_eq made, planner, ?_⟩
    intro e
    rw [Topology.build_empty start, Outcome.map_eq_error, planner, Planner.registerAll_eq_error_iff]
  · intro e failed
    rcases (failures e).mp failed with invalid | ⟨_, before, r, after, _, _, refused⟩
    · rcases Settings.of_validate_eq_error invalid with ⟨_, _, rfl⟩ | ⟨_, _, _, rfl⟩
      · exact Error.not_wiring_validation _ _
      · exact Error.not_wiring_conflict _ _ _
    · exact not_wiring_of_register ((Topology.Kind.ofSettings s).records before).counted refused

end Plan

end Perimeter
