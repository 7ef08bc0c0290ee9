import Mathlib.Algebra.GroupWithZero.Nat
import Perimeter.Proofs.Listener.Names
import Perimeter.Route.Services

/-!
The layout of a listener's plan. The rules stand in one block for each accepted service, in the order
of registration; a block deals out the patterns of its service five at a time, so their number is a
fifth of that of the patterns, rounded up, and priorities count through all blocks
(`Planner.run_layout`).
-/

namespace Perimeter

theorem Route.ruleCount_eq (r : Route) : r.ruleCount = (2 * r.paths.length + 4) / 5 := by
  have total : r.expandedPatterns.length = 2 * r.paths.length := by
    rw [expandedPatterns, List.length_append, List.length_map]
    omega
  rw [ruleCount, total]
  exact Batch.count_eq (by decide)

namespace Planner

/-- The rules of one service. -/
structure BlockOf (suffix : String) (s : Service) (rules : List PlannedRule) : Prop where
  length : rules.length = (2 * s.1.paths.length + 4) / 5
  patterns : rules.flatMap (·.patterns) = s.1.expandedPatterns
  named : ∀ (k : Nat) (rule : PlannedRule), rules[k]? = some rule → rule.service = s.1.service ∧
    rule.id.text = s.1.service.text ++ "Rule" ++ toString k ∧
    rule.targetGroup.text = s.1.service.text ++ suffix

/-- Whatever maps to a concatenation can be cut where the concatenation is. -/
private theorem exists_parts {α β γ : Type} {f : α → γ} {g : β → List γ} {xs : List α} {ys : List β}
    (same : xs.map f = ys.flatMap g) :
    ∃ parts : List (List α), xs = parts.flatten ∧
      List.Forall₂ (fun y part => part.map f = g y) ys parts := by
  induction ys generalizing xs with
  | nil =>
    rw [List.flatMap_nil, List.map_eq_nil_iff] at same
    exact ⟨[], same, .nil⟩
  | cons y ys ih =>
    rw [List.flatMap_cons] at same
    obtain ⟨part, rest, rfl, here, later⟩ := List.map_eq_append_iff.mp same
    obtain ⟨parts, rfl, each⟩ := ih later
    exact ⟨part :: parts, rfl, .cons here each⟩

private theorem blockOf_of_content {suffix : String} {s : Service}
    (group : s.2.targetGroup.text = s.1.service.text ++ suffix) {rules : List PlannedRule}
    (same : rules.map content = block s) : BlockOf suffix s rules := by
  refine ⟨?_, ?_, ?_⟩
  · have lengths := congrArg List.length ((congrArg (List.map (·.1)) same).trans (names_block s))
    rw [List.length_map, List.length_map, length_ruleNames] at lengths
    rw [lengths, Route.ruleCount_eq]
  · have batches := (congrArg (List.map (·.2.2.1)) same).trans (patterns_block s)
    rw [List.map_map] at batches
    rw [List.flatMap_def, ← Batch.flatten_batches s.1.expandedPatterns, ← batches]
    rfl
  · intro k rule found
    have listed : (block s)[k]? = some (content rule) := by
      rw [← same, List.getElem?_map, found]
      rfl
    rw [block, List.getElem?_map, Option.map_eq_some_iff] at listed
    obtain ⟨⟨name, batch⟩, zipped, parts⟩ := listed
    have numbered := (List.getElem?_zip_eq_some.mp zipped).1
    rw [ruleNames, List.getElem?_map, Option.map_eq_some_iff] at numbered
    obtain ⟨i, counted, rfl⟩ := numbered
    obtain ⟨_, rfl⟩ := List.getElem?_eq_some_iff.mp counted
    simp only [content, Prod.mk.injEq, List.getElem_range] at parts
    obtain ⟨name, service, _, target⟩ := parts
    refine ⟨service.symm, ?_, ?_⟩
    · rw [← name, ruleName, String.append_assoc]
    · rw [← target, group]

theorem Records.exists_blocks {p : Planner} {services : List Service} (records : p.Records services) :
    ∃ blocks : List (List PlannedRule), p.rules = blocks.flatten ∧
      List.Forall₂ (BlockOf p.suffix) services blocks := by
  obtain ⟨blocks, whole, each⟩ := exists_parts records.rules
  refine ⟨blocks, whole, ?_⟩
  rw [List.forall₂_iff_get] at each ⊢
  refine ⟨each.1, fun i left right => ?_⟩
  exact blockOf_of_content (records.answers _ (List.get_mem _ _)).2.2 (each.2 i left right)

theorem Records.length_rules {p : Planner} {services : List Service} (records : p.Records services) :
    p.rules.length = (services.map fun s => (2 * s.1.paths.length + 4) / 5).sum := by
  obtain ⟨blocks, whole, each⟩ := records.exists_blocks
  rw [whole, List.length_flatten]
  clear whole records
  induction each with
  | nil => rfl
  | cons here _ ih => rw [List.map_cons, List.map_cons, List.sum_cons, List.sum_cons, ih, here.length]

theorem Records.length_patterns {p : Planner} {services : List Service} (records : p.Records services)
    {rule : PlannedRule} (member : rule ∈ p.rules) :
    1 ≤ rule.patterns.length ∧ rule.patterns.length ≤ 5 := by
  have listed : content rule ∈ services.flatMap block := by
    rw [← records.rules]
    exact List.mem_map_of_mem member
  obtain ⟨s, _, inside⟩ := List.mem_flatMap.mp listed
  have batch : rule.patterns ∈ Batch.batches s.1.expandedPatterns := by
    rw [← patterns_block]
    exact List.mem_map_of_mem inside
  exact Batch.length_of_mem_chunks _ batch

/-- What a listener's plan looks like after any attempts to register services with a fresh planner:
its rules and target groups are those of the accepted services in order, nothing is lost or taken
twice, and no two resources share a name. -/
theorem run_layout (listener : LogicalId) (profile : HealthProfile) (suffix : String)
    (routes : List Route) :
    let p := (empty listener profile suffix).run routes
    let services := (empty listener profile suffix).accepted routes
    p.rules.map (·.priority.value.toNat) = List.range' 1 p.rules.length ∧
    p.rules.length = (services.map fun s => (2 * s.1.paths.length + 4) / 5).sum ∧
    p.rules.length ≤ 100 ∧
    (∀ rule ∈ p.rules, 1 ≤ rule.patterns.length ∧ rule.patterns.length ≤ 5) ∧
    (∃ blocks : List (List PlannedRule), p.rules = blocks.flatten ∧
      List.Forall₂ (BlockOf suffix) services blocks) ∧
    p.targetGroups.map (fun group => (group.service, group.id.text, group.port)) =
      services.map (fun s => (s.1.service, s.1.service.text ++ suffix, s.1.port)) ∧
    (p.targetGroups.map (·.service)).Nodup ∧
    (suffix ≠ "" → ¬ Ident.EndsInDigit suffix → (Resource.names p.resources).Nodup) := by
  intro p services
  have records : p.Records services := records_fresh listener profile suffix routes
  have same : p.suffix = suffix := (given_run (counted_empty listener profile suffix) routes).2.2
  have blocks := records.exists_blocks
  rw [same] at blocks
  refine ⟨records.priorities, records.length_rules, records.counted.few,
    fun rule member => records.length_patterns member, blocks, ?_, ?_, ?_⟩
  · rw [records.groups, List.map_map]
    refine List.map_congr_left fun s member => ?_
    simp only [Function.comp, targetGroup, (records.answers s member).2.2, same]
  · rw [records.groups, List.map_map]
    exact records.distinct
  · intro filled plain
    refine records.nodup_names (by rwa [same]) ?_
    rwa [same, ne_eq, String.toList_eq_nil_iff]

/-- The interface needs two rules and every other service one. -/
theorem run_layout_services :
    let p := (empty (.literal "AlbListener") .direct).run Route.services
    p.rules.length = 4 ∧ ¬ Ident.EndsInDigit "TargetGroup" ∧ (Resource.names p.resources).Nodup ∧
      Resource.names p.resources = ["ApiTargetGroup", "ExtensionTargetGroup", "WebTargetGroup",
        "ApiRule0", "ApiRule1", "ExtensionRule0", "WebRule0"] := by
  obtain ⟨_, _, _, _, _, _, _, distinct⟩ :=
    run_layout (.literal "AlbListener") .direct "TargetGroup" Route.services
  have plain : ¬ Ident.EndsInDigit "TargetGroup" := by decide
  exact ⟨by decide +kernel, plain, distinct (by decide) plain, by decide +kernel⟩

end Planner

end Perimeter
