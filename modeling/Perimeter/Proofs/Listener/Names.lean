import Perimeter.Proofs.Listener.Run
import Perimeter.Proofs.Stack

/-!
The names of what a planner holds: those of target groups end in the planner's suffix, those of
rules in a number. After any run no two of them are the same (`Records.nodup_names`), as long as
the suffix does not end in a digit itself.
-/

namespace Perimeter.Planner

open Resource (names)
open Ident (EndsInDigit)

private theorem ruleName_eq (service : ServiceId) (i : Nat) :
    ruleName service i = service.text ++ "Rule" ++ toString i := (String.append_assoc ..).symm

theorem endsInDigit_ruleName (service : ServiceId) (i : Nat) : EndsInDigit (ruleName service i) := by
  rw [ruleName_eq]
  exact Ident.endsInDigit_numbered _ i

/-- What stands before the number of a rule does not end in a digit. -/
theorem not_endsInDigit_rule (service : ServiceId) : ¬ EndsInDigit (service.text ++ "Rule") := by
  rw [Ident.endsInDigit_append (by decide)]
  decide

/-- The name of a rule tells its service and its number. -/
theorem ruleName_injective {service other : ServiceId} {i j : Nat}
    (same : ruleName service i = ruleName other j) : service = other ∧ i = j := by
  rw [ruleName_eq, ruleName_eq] at same
  obtain ⟨stems, numbers⟩ :=
    Ident.numbered_injective (not_endsInDigit_rule service) (not_endsInDigit_rule other) same
  exact ⟨Ident.ext ((String.append_left_inj "Rule").mp stems), numbers⟩

theorem nodup_ruleNames (r : Route) : (ruleNames r).Nodup :=
  List.nodup_range.map fun _ _ same => (ruleName_injective same).2

theorem nodup_flatMap_ruleNames {services : List Service}
    (distinct : (services.map (·.1.service)).Nodup) :
    (services.flatMap fun s => ruleNames s.1).Nodup := by
  refine List.nodup_flatMap.mpr ⟨fun s _ => nodup_ruleNames s.1, ?_⟩
  refine (List.pairwise_map.mp distinct).imp ?_
  intro s t differ name left right
  obtain ⟨i, _, rfl⟩ := List.mem_map.mp left
  obtain ⟨j, _, same⟩ := List.mem_map.mp right
  exact differ (ruleName_injective same).1.symm

/-! ### The names of all resources -/

variable {p : Planner} {services : List Service}

theorem mem_resources {r : Resource} : r ∈ p.resources ↔
    (∃ group ∈ p.targetGroups, r = .targetGroup group) ∨
      ∃ rule ∈ p.rules, r = PlannedRule.resource p.listener rule := by
  simp only [resources, List.mem_append, List.mem_map, eq_comm]

theorem filterMap_resources {α : Type} (p : Planner) {f : Resource → Option α}
    (groups : ∀ r, f (.targetGroup r) = none) (rules : ∀ r, f (.listenerRule r) = none) :
    p.resources.filterMap f = [] := by
  rw [List.filterMap_eq_nil_iff]
  intro r member
  rcases mem_resources.mp member with ⟨group, _, rfl⟩ | ⟨planned, _, rfl⟩
  · exact groups group
  · exact rules _

theorem Records.names_resources (records : p.Records services) :
    names p.resources = services.map (fun s => s.1.service.text ++ p.suffix) ++
      services.flatMap fun s => ruleNames s.1 := by
  have groups : names (p.targetGroups.map .targetGroup) =
      services.map fun s => s.1.service.text ++ p.suffix := by
    rw [records.groups, names, List.map_map, List.map_map]
    exact List.map_congr_left fun s member => (records.answers s member).2.2
  have rules : names (p.rules.map (PlannedRule.resource p.listener)) =
      services.flatMap fun s => ruleNames s.1 := by
    have contents : (p.rules.map content).map (·.1) = services.flatMap fun s => ruleNames s.1 := by
      rw [records.rules, List.map_flatMap]
      exact List.flatMap_congr fun s _ => names_block s
    rw [← contents, names, List.map_map, List.map_map]
    rfl
  have both : names p.resources = names (p.targetGroups.map .targetGroup) ++
      names (p.rules.map (PlannedRule.resource p.listener)) := List.map_append
  rw [both, groups, rules]

/-- No two resources of a planner share a name. -/
theorem Records.nodup_names (records : p.Records services) (plain : ¬ EndsInDigit p.suffix)
    (filled : p.suffix.toList ≠ []) : (names p.resources).Nodup := by
  rw [records.names_resources]
  refine List.nodup_append.mpr ⟨?_, nodup_flatMap_ruleNames records.distinct, ?_⟩
  · have named := records.distinct.map (f := fun service : ServiceId => service.text ++ p.suffix)
      fun _ _ same => Ident.ext ((String.append_left_inj p.suffix).mp same)
    rwa [List.map_map] at named
  · intro name group _ rule same
    obtain ⟨s, _, rfl⟩ := List.mem_map.mp group
    obtain ⟨t, _, member⟩ := List.mem_flatMap.mp rule
    obtain ⟨i, _, rfl⟩ := List.mem_map.mp member
    have digit := endsInDigit_ruleName t.1.service i
    rw [← same, Ident.endsInDigit_append filled] at digit
    exact plain digit

/-- A name with another ending than the suffix is free if no rule has it. -/
theorem Records.not_mem_names (records : p.Records services) (filled : p.suffix.toList ≠ [])
    {name : String} (ending : name.toList.getLast? ≠ p.suffix.toList.getLast?)
    (noRule : ∀ service i, ruleName service i ≠ name) : name ∉ names p.resources := by
  rw [records.names_resources]
  intro member
  rcases List.mem_append.mp member with group | rule
  · obtain ⟨s, _, rfl⟩ := List.mem_map.mp group
    apply ending
    have last := List.getLast?_eq_some_getLast filled
    rw [String.toList_append, List.getLast?_append, last]
    rfl
  · obtain ⟨t, _, inside⟩ := List.mem_flatMap.mp rule
    obtain ⟨i, _, same⟩ := List.mem_map.mp inside
    exact noRule t.1.service i same

end Perimeter.Planner
