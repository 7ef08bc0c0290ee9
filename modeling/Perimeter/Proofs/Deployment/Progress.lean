import Perimeter.Proofs.Deployment.Order
import Perimeter.Proofs.References

/-!
The gate and the order of deployment agree. Whatever has been completed so far, the first stack of
the order that is left is let through by its gate, so a deployment never gets stuck, and the order is
a deployment itself. An assembled plan lists its stacks in such an order; the stack for the CDN is
complete before the application's (`gate_agrees_with_order`).
-/

namespace Perimeter.Plan

variable {ss order : List Stack} {done : List String}

/-- The first stack of an order that is left waits for completed ones only. -/
theorem exists_ready (all : order.Perm ss) (sorted : Sorted order) (left : ∃ s ∈ ss, s.name ∉ done) :
    ∃ s ∈ ss, s.name ∉ done ∧ s.ready done = .ok () := by
  obtain ⟨s, listed, new⟩ := left
  cases found : order.find? fun t => t.name ∉ done with
  | none =>
    have completed := List.find?_eq_none.mp found s (all.mem_iff.mpr listed)
    simp [new] at completed
  | some t =>
    obtain ⟨new, before, after, split, earlier⟩ := List.find?_eq_some_iff_append.mp found
    refine ⟨t, all.mem_iff.mp (List.mem_of_find?_eq_some found), by simpa using new, ?_⟩
    refine Stack.ready_eq_ok_iff.mpr fun other waited => ?_
    obtain ⟨u, member, rfl⟩ := List.mem_map.mp (sorted before t after split waited)
    simpa using earlier u member

/-! ### Stacks that are listed in order -/

theorem sorted_nil : Sorted [] := by
  intro before s after split
  cases before with
  | nil => cases split
  | cons _ _ => cases split

theorem Sorted.concat (sorted : Sorted order) {s : Stack}
    (waits : s.dependsOn ⊆ order.map (·.name)) : Sorted (order ++ [s]) := by
  intro before t after split
  rcases of_concat_eq split with ⟨rfl, rfl⟩ | ⟨rest, earlier⟩
  · exact waits
  · exact sorted before t rest earlier

theorem Sorted.complete (sorted : Sorted ss) : Complete ss := by
  intro s listed other waited
  obtain ⟨before, after, split⟩ := List.append_of_mem listed
  rw [split, List.map_append]
  exact List.mem_append_left _ (sorted before s after split waited)

theorem not_mem_before {before after : List Stack} {s : Stack}
    (names : ((before ++ s :: after).map (·.name)).Nodup) : s.name ∉ before.map (·.name) := by
  rw [List.map_append, List.map_cons] at names
  exact fun member => (List.nodup_append'.mp names).2.2 member (List.mem_cons_self ..)

theorem orderFrom_of_sorted (names : (ss.map (·.name)).Nodup) (sorted : Sorted ss)
    (before after : List Stack) (split : ss = before ++ after) :
    orderFrom ss after.length (before.map (·.name)) = .ok after := by
  induction after generalizing before with
  | nil => rfl
  | cons s rest ih =>
    have next : next? ss (before.map (·.name)) = some s := by
      refine List.find?_eq_some_iff_append.mpr ⟨?_, before, rest, split, fun t earlier => ?_⟩
      · have new : s.name ∉ before.map (·.name) := not_mem_before (split ▸ names)
        simpa [new] using fun other waited => List.mem_map.mp (sorted before s rest split waited)
      · have listed : t.name ∈ before.map (·.name) := List.mem_map_of_mem earlier
        simp [listed]
    have later := ih (before ++ [s]) (by rw [split, List.append_cons])
    rw [List.map_append, List.map_singleton] at later
    rw [List.length_cons, orderFrom, next]
    simp only [later]
    rfl

/-- Stacks that are listed behind what they wait for are deployed as they are listed. -/
theorem order_of_sorted (names : (ss.map (·.name)).Nodup) (sorted : Sorted ss) :
    Plan.order ss = .ok ss := by
  rw [Plan.order, missing?_eq_none_iff.mpr sorted.complete]
  exact orderFrom_of_sorted names sorted [] ss rfl

/-! ### Assembled plans -/

section Assembled

variable {p : Plan} {s : Settings} {policy : Policy} {first : List Resource} {planner : Planner}

theorem names_stacksOf (s : Settings) (policy : Policy) (first : List Resource) (planner : Planner) :
    (stacksOf s policy first planner).map (·.name) =
      (if Secondary.isRequired s policy then [Secondary.stackName] else []) ++ [primaryName] := by
  have named := ((Topology.ofSettings s policy).filled_eq primaryName s.region first planner).1
  rw [stacksOf, List.map_append, List.map_singleton, named]
  split
  · rfl
  · rfl

theorem nodup_stacksOf (s : Settings) (policy : Policy) (first : List Resource) (planner : Planner) :
    ((stacksOf s policy first planner).map (·.name)).Nodup := by
  rw [names_stacksOf]
  split
  · decide
  · decide

theorem sorted_stacksOf (s : Settings) (policy : Policy) (first : List Resource) (planner : Planner) :
    Sorted (stacksOf s policy first planner) := by
  refine Sorted.concat ?_ fun other waited => ?_
  · split
    · exact sorted_nil.concat (List.nil_subset _)
    · exact sorted_nil
  · obtain ⟨required, rfl⟩ := waits_for_secondary_iff.mp waited
    rw [if_pos required]
    exact List.mem_singleton_self _

/-- In an assembled plan nothing is left once the application's stack is completed. -/
theorem completed_of_primary {done : List String}
    (reached : Reachable (stacksOf s policy first planner) done) (completed : primaryName ∈ done) :
    ∀ stack ∈ stacksOf s policy first planner, stack.name ∈ done := by
  intro stack listed
  have named := List.mem_map_of_mem (f := (·.name)) listed
  rw [names_stacksOf] at named
  rcases List.mem_append.mp named with secondary | primary
  · split at secondary
    · rename_i required
      have primary := ((Topology.ofSettings s policy).filled_eq primaryName s.region first planner).1
      rw [← primary] at completed
      obtain ⟨before, after, split⟩ := List.append_of_mem completed
      have waits := reached.orderly.waits (nodup_stacksOf ..)
        (List.mem_append_right _ (List.mem_singleton_self _)) split
      rw [List.mem_singleton.mp secondary, split]
      exact List.mem_append_left _ (waits _ (waits_for_secondary_iff.mpr ⟨required, rfl⟩))
    · cases secondary
  · rw [List.mem_singleton.mp primary]
    exact completed

/-- An assembled plan lists its stacks in the order of their deployment. -/
theorem deploymentOrder_assembled {routes : List Route} (ok : assemble s routes = .ok p) :
    p.deploymentOrder = .ok p.allStacks := by
  obtain ⟨policy, first, _, _, held, _⟩ := parts_of_assemble ok
  refine Outcome.mapError_eq_ok.mpr ?_
  rw [held]
  exact order_of_sorted (nodup_stacksOf ..) (sorted_stacksOf s policy first _)

end Assembled

/-- The gate and the order of deployment agree. If there is an order, then in every state that can be
reached each completed stack stands behind all that it waits for, and a stack that is left can be
completed as long as there is one; the order itself is a run to the state in which all are completed.
In an assembled plan nothing is left once the application's stack is completed. -/
theorem gate_agrees_with_order (p : Plan) :
    (∀ order, p.deploymentOrder = .ok order →
      (∀ done, Reachable p.allStacks done →
        (∀ s ∈ p.allStacks, ∀ before after, done = before ++ s.name :: after →
          s.dependsOn ⊆ before) ∧
        ((∃ s ∈ p.allStacks, s.name ∉ done) →
          ∃ s ∈ p.allStacks, s.name ∉ done ∧ s.ready done = .ok ())) ∧
      Reachable p.allStacks (order.map (·.name)) ∧
      ∀ s ∈ p.allStacks, s.name ∈ order.map (·.name)) ∧
    ∀ s routes, assemble s routes = .ok p → ∀ done, Reachable p.allStacks done →
      primaryName ∈ done → ∀ stack ∈ p.allStacks, stack.name ∈ done := by
  constructor
  · intro order found
    have made := Outcome.mapError_eq_ok.mp found
    obtain ⟨all, names, run⟩ := of_order_eq_ok made
    refine ⟨fun done reached => ⟨?_, ?_⟩, run, ?_⟩
    · intro s listed before after split
      exact reached.orderly.waits names listed split
    · exact exists_ready all (sorted_of_order_eq_ok made)
    · intro s listed
      exact List.mem_map_of_mem (all.mem_iff.mpr listed)
  · intro s routes ok done reached completed stack listed
    obtain ⟨policy, first, _, _, held, _⟩ := parts_of_assemble ok
    rw [held] at reached listed
    exact completed_of_primary reached completed stack listed

/-- Settings that publish the application under a domain. -/
private def published : Settings := { Settings.initial with domain := ⟨some "example.org", none⟩ }

/-- Both stacks can be completed in the order of the plan, and not in the other one. -/
theorem gate_agrees_with_order_published :
    ∃ p, assemble published Route.services = .ok p ∧
      p.allStacks.map (·.name) = ["EdgeGlobalStack", "EdgeStack"] ∧
      Reachable p.allStacks (p.allStacks.map (·.name)) ∧
      ∀ done, Reachable p.allStacks done → "EdgeStack" ∈ done → "EdgeGlobalStack" ∈ done := by
  obtain ⟨p, outcome⟩ : ∃ p, assemble published Route.services = .ok p :=
    Outcome.exists_ok_of_isOk (by decide +kernel)
  obtain ⟨agrees, last⟩ := gate_agrees_with_order p
  have names : p.allStacks.map (·.name) = ["EdgeGlobalStack", "EdgeStack"] := by
    obtain ⟨policy, _, _, _, held, _⟩ := parts_of_assemble outcome
    have required : Secondary.isRequired published policy = true :=
      (Secondary.isRequired_iff published policy).mpr ⟨rfl, .inl rfl⟩
    rw [held, names_stacksOf, required]
    rfl
  refine ⟨p, outcome, names, (agrees _ (deploymentOrder_assembled outcome)).2.1, ?_⟩
  intro done reached completed
  have first : "EdgeGlobalStack" ∈ p.allStacks.map (·.name) := by
    rw [names]
    exact List.mem_cons_self ..
  obtain ⟨stack, listed, named⟩ := List.mem_map.mp first
  rw [← named]
  exact last published Route.services outcome done reached completed stack listed

end Perimeter.Plan
