import Perimeter.Proofs.Deployment.Progress

/-!
The order of deployment is stable. Each time, the first stack of the plan that can be deployed is taken,
so among all orders in which each stack stands behind what it waits for, the one that is found has the
lexicographically least places in the plan (`least_of_orderFrom`). Stacks that are listed in such an
order are left where they are (`deploymentOrder_stable`).
-/

namespace Perimeter.Plan

/-- The place of a stack in a list: that of the first stack of its name. -/
def position (ss : List Stack) (s : Stack) : Nat := ss.findIdx fun t => t.name == s.name

/-- The places of stacks in a list. -/
def positions (ss order : List Stack) : List Nat := order.map (position ss)

/-- Stacks of the plan that can be deployed one after the other, in a given state. -/
inductive Deploys (ss : List Stack) : List String → List Stack → Prop where
  | nil {done : List String} : Deploys ss done []
  | cons {done : List String} {s : Stack} {rest : List Stack} (listed : s ∈ ss) (new : s.name ∉ done)
      (waits : s.dependsOn ⊆ done) (later : Deploys ss (done ++ [s.name]) rest) :
      Deploys ss done (s :: rest)

variable {ss : List Stack} {done : List String}

theorem position_of_split {before after : List Stack} {s : Stack}
    (names : ((before ++ s :: after).map (·.name)).Nodup) :
    position (before ++ s :: after) s = before.length := by
  have none : before.findIdx (fun t => t.name == s.name) = before.length := by
    refine List.findIdx_eq_length.mpr fun t earlier => beq_false_of_ne fun same => ?_
    exact not_mem_before names (same ▸ List.mem_map_of_mem earlier)
  rw [position, List.findIdx_append, none, if_neg (Nat.lt_irrefl _), List.findIdx_cons]
  simp

theorem position_next? (names : (ss.map (·.name)).Nodup) {s t : Stack} (found : next? ss done = some s)
    (listed : t ∈ ss) (new : t.name ∉ done) (waits : t.dependsOn ⊆ done) :
    t = s ∨ position ss s < position ss t := by
  obtain ⟨_, before, after, rfl, passed⟩ := List.find?_eq_some_iff_append.mp found
  -- What stands before the stack that is found was passed over, so it could not be deployed.
  rcases List.mem_append.mp listed with earlier | here | ⟨_, later⟩
  · have refused := passed t earlier
    have free : (!done.contains t.name && t.dependsOn.all fun other => done.contains other) = true := by
      simpa [new] using fun other waited => waits waited
    rw [free] at refused
    cases refused
  · exact .inl rfl
  · right
    obtain ⟨between, rest, rfl⟩ := List.append_of_mem later
    have first := position_of_split names
    rw [← List.cons_append, ← List.append_assoc] at names
    have second := position_of_split names
    rw [List.append_assoc, List.cons_append] at second
    rw [first, second, List.length_append, List.length_cons]
    omega

/-- Whatever else can be deployed, stack by stack, the order that is found has the least places at the
first stack in which the two differ. -/
theorem least_of_orderFrom (names : (ss.map (·.name)).Nodup) {n : Nat} {order other : List Stack}
    (made : orderFrom ss n done = .ok order) (run : Deploys ss done other) (length : other.length = n) :
    other = order ∨ positions ss order < positions ss other := by
  -- As long as both take the same stack they are in the same state; then what is found comes first.
  induction n generalizing done order other with
  | zero =>
    cases made
    exact .inl (List.length_eq_zero_iff.mp length)
  | succ n ih =>
    cases run with
    | nil => cases length
    | @cons _ t others listed new waits later =>
      rw [orderFrom] at made
      split at made
      · cases made
      · rename_i s found
        obtain ⟨rest, earlier, same⟩ := Outcome.bind_eq_ok.mp made
        cases same
        rcases position_next? names found listed new waits with rfl | less
        · rcases ih earlier later (Nat.succ.inj length) with rfl | less
          · exact .inl rfl
          · exact .inr (List.cons_lt_cons_iff.mpr (.inr ⟨rfl, less⟩))
        · exact .inr (List.cons_lt_cons_iff.mpr (.inl less))

theorem Sorted.deploys {order : List Stack} (sorted : Sorted order) (names : (order.map (·.name)).Nodup)
    (inside : order ⊆ ss) (before after : List Stack) (split : order = before ++ after) :
    Deploys ss (before.map (·.name)) after := by
  induction after generalizing before with
  | nil => exact .nil
  | cons s rest ih =>
    have later := ih (before ++ [s]) (by rw [split, List.append_cons])
    rw [List.map_append, List.map_singleton] at later
    refine .cons ?_ ?_ (sorted before s rest split) later
    · exact inside (split ▸ List.mem_append_right _ (List.mem_cons_self ..))
    · exact not_mem_before (split ▸ names)

theorem least_of_order_eq_ok {order other : List Stack} (made : Plan.order ss = .ok order)
    (all : other.Perm ss) (sorted : Sorted other) :
    other = order ∨ positions ss order < positions ss other := by
  have names := (of_order_eq_ok made).2.1
  have run := sorted.deploys ((all.map _).nodup_iff.mpr names) all.subset [] other rfl
  exact least_of_orderFrom names (complete_of_order_eq_ok made).2 run all.length_eq

/-- The order of deployment is stable. Of all permutations in which each stack stands behind what it
waits for, it is the one with the lexicographically least places in the plan; put into that order, the
plan keeps it. Under names that differ, stacks that are listed in such an order stay as they are, and so
do those of an assembled plan. -/
theorem deploymentOrder_stable (p : Plan) :
    (∀ order, p.deploymentOrder = .ok order →
      (order.Perm p.allStacks ∧ Sorted order) ∧
      (∀ other, other.Perm p.allStacks → Sorted other →
        other = order ∨ positions p.allStacks order < positions p.allStacks other) ∧
      { p with allStacks := order }.deploymentOrder = .ok order) ∧
    ((p.allStacks.map (·.name)).Nodup → Sorted p.allStacks → p.deploymentOrder = .ok p.allStacks) ∧
    ∀ s routes, assemble s routes = .ok p → p.deploymentOrder = .ok p.allStacks := by
  refine ⟨?_, ?_, fun s routes ok => deploymentOrder_assembled ok⟩
  · intro order found
    have made := Outcome.mapError_eq_ok.mp found
    obtain ⟨all, names, _⟩ := of_order_eq_ok made
    have sorted := sorted_of_order_eq_ok made
    refine ⟨⟨all, sorted⟩, fun other => least_of_order_eq_ok made, ?_⟩
    exact Outcome.mapError_eq_ok.mpr (order_of_sorted ((all.map _).nodup_iff.mpr names) sorted)
  · intro names sorted
    exact Outcome.mapError_eq_ok.mpr (order_of_sorted names sorted)

private def behind (name : String) (others : List String) : Stack :=
  { Stack.empty name "us-west-2" with dependsOn := others }

/-- A plan of four stacks that can be deployed in more orders than one. -/
private def loose : Plan where
  topology := .direct ⟨.internal, .hidden, [], none, .initial⟩
  allStacks := [behind "Site" ["Data"], behind "Network" [], behind "Data" [], behind "Report" ["Site"]]
  baseUrl := ""
  targetGroups := []

/-- The network comes first, since the site has to wait; an order that starts with the data is greater. -/
theorem deploymentOrder_stable_loose :
    let order := [behind "Network" [], behind "Data" [], behind "Site" ["Data"], behind "Report" ["Site"]]
    let other := [behind "Data" [], behind "Site" ["Data"], behind "Network" [], behind "Report" ["Site"]]
    loose.deploymentOrder = .ok order ∧ other.Perm loose.allStacks ∧ Sorted other ∧
      positions loose.allStacks order = [1, 2, 0, 3] ∧
      positions loose.allStacks order < positions loose.allStacks other ∧
      { loose with allStacks := order }.deploymentOrder = .ok order := by
  intro order other
  have found : loose.deploymentOrder = .ok order := rfl
  have all : other.Perm loose.allStacks := (List.Perm.swap ..).trans ((List.Perm.swap ..).cons _)
  have sorted : Sorted other := by
    have first := sorted_nil.concat (s := behind "Data" []) (List.nil_subset _)
    have second := first.concat (s := behind "Site" ["Data"]) (by decide)
    have third := second.concat (s := behind "Network" []) (List.nil_subset _)
    exact third.concat (s := behind "Report" ["Site"]) (by decide)
  obtain ⟨_, least, again⟩ := (deploymentOrder_stable loose).1 order found
  refine ⟨found, all, sorted, by decide, ?_, again⟩
  rcases least other all sorted with same | less
  · exact absurd (congrArg (List.map (·.name)) same) (by decide)
  · exact less

end Perimeter.Plan
