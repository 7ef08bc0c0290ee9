import Mathlib.Data.List.Nodup
import Mathlib.Logic.Relation
import Perimeter.Plan

/-!
Deployments as runs. A state lists the names of the completed stacks in the order of their
completion; a stack of the plan that is not among them can be completed once its gate lets it start
(`Step`). In every state that can be reached, each name stands behind those that its stack waits for
(`Orderly`).
-/

namespace Perimeter

theorem Stack.ready_eq_ok_iff {s : Stack} {completed : List String} :
    s.ready completed = .ok () ↔ ∀ other ∈ s.dependsOn, other ∈ completed := by
  have pending : (s.pending completed).isEmpty = true ↔ ∀ other ∈ s.dependsOn, other ∈ completed := by
    simp [pending]
  rw [← pending, ready]
  cases (s.pending completed).isEmpty with
  | true => exact ⟨fun _ => rfl, fun _ => rfl⟩
  | false =>
    constructor
    · intro impossible
      cases impossible
    · intro impossible
      cases impossible

namespace Plan

/-- A stack that is not complete yet is completed, when its gate lets it start. -/
inductive Step (ss : List Stack) : List String → List String → Prop where
  | complete {done : List String} {s : Stack} (listed : s ∈ ss) (new : s.name ∉ done)
      (ready : s.ready done = .ok ()) : Step ss done (done ++ [s.name])

/-- The states of a deployment, which starts with nothing completed. -/
def Reachable (ss : List Stack) (done : List String) : Prop := Relation.ReflTransGen (Step ss) [] done

/-- Each completed name is that of a stack, stands once, and stands behind all that a stack of the
name waits for. -/
structure Orderly (ss : List Stack) (done : List String) : Prop where
  known : done ⊆ ss.map (·.name)
  distinct : done.Nodup
  behind : ∀ before name after, done = before ++ name :: after →
    ∃ s ∈ ss, s.name = name ∧ ∀ other ∈ s.dependsOn, other ∈ before

/-- What stands in a list with one more element is that element or stands in the shorter list. -/
theorem of_concat_eq {α : Type} {xs before after : List α} {x y : α}
    (split : xs ++ [x] = before ++ y :: after) :
    (before = xs ∧ y = x) ∨ ∃ rest, xs = before ++ y :: rest := by
  rcases List.eq_nil_or_concat after with rfl | ⟨rest, last, rfl⟩
  · obtain ⟨rfl, same⟩ := List.append_inj' split rfl
    cases same
    exact .inl ⟨rfl, rfl⟩
  · rw [List.concat_eq_append, ← List.cons_append, ← List.append_assoc] at split
    exact .inr ⟨rest, (List.append_inj' split rfl).1⟩

variable {ss : List Stack} {done : List String}

theorem orderly_nil (ss : List Stack) : Orderly ss [] := by
  refine ⟨List.nil_subset _, .nil, ?_⟩
  intro before name after split
  cases before with
  | nil => cases split
  | cons _ _ => cases split

theorem Orderly.step (orderly : Orderly ss done) {next : List String} (step : Step ss done next) :
    Orderly ss next := by
  cases step with
  | @complete s listed new ready =>
    refine ⟨?_, ?_, ?_⟩
    · intro name member
      rcases List.mem_append.mp member with earlier | last
      · exact orderly.known earlier
      · rw [List.mem_singleton.mp last]
        exact List.mem_map_of_mem listed
    · exact orderly.distinct.append (List.nodup_singleton _) (List.disjoint_singleton.mpr new)
    · intro before name after split
      rcases of_concat_eq split with ⟨rfl, rfl⟩ | ⟨rest, earlier⟩
      · exact ⟨s, listed, rfl, Stack.ready_eq_ok_iff.mp ready⟩
      · exact orderly.behind before name rest earlier

theorem Reachable.orderly (reached : Reachable ss done) : Orderly ss done := by
  induction reached with
  | refl => exact orderly_nil ss
  | tail _ step ih => exact ih.step step

/-- With names that differ, what stands in front of a completed stack holds all that it waits for. -/
theorem Orderly.waits (orderly : Orderly ss done) (names : (ss.map (·.name)).Nodup) {s : Stack}
    (listed : s ∈ ss) {before after : List String} (split : done = before ++ s.name :: after) :
    ∀ other ∈ s.dependsOn, other ∈ before := by
  obtain ⟨t, member, named, waits⟩ := orderly.behind before s.name after split
  rwa [List.inj_on_of_nodup_map names member listed named] at waits

end Plan

end Perimeter
