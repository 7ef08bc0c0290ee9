import Mathlib.Data.List.Perm.Subperm
import Mathlib.Data.Set.Finite.Basic
import Mathlib.Order.WellFounded
import Perimeter.Proofs.Deployment.Run
import Perimeter.Proofs.Outcome

/-!
The order of deployment. Taking the first stack that is ready, again and again, is a run of the
deployment (`of_orderFrom_eq_ok`), so that a run that gets stuck tells of a cycle: each stack that is
left waits for another one that is left. The order exists exactly if no stack is missing and the
stacks form no cycle (`deploymentOrder_exact`).
-/

namespace Perimeter.Plan

open Relation (ReflTransGen TransGen)

/-- A stack waits for another one of the same plan. -/
def DependsOn (ss : List Stack) (a b : Stack) : Prop := a ∈ ss ∧ b ∈ ss ∧ b.name ∈ a.dependsOn

/-- Some stacks wait for each other in a circle. -/
def Cyclic (ss : List Stack) : Prop := ∃ s, TransGen (DependsOn ss) s s

/-- All that is waited for is in the plan. -/
def Complete (ss : List Stack) : Prop := ∀ s ∈ ss, s.dependsOn ⊆ ss.map (·.name)

/-- The first stack that waits for something outside the plan, and the first such thing. -/
def FirstMissing (ss : List Stack) (s : Stack) (other : String) : Prop :=
  (∃ before after, ss = before ++ s :: after ∧ ∀ t ∈ before, t.dependsOn ⊆ ss.map (·.name)) ∧
  ∃ before after, s.dependsOn = before ++ other :: after ∧ before ⊆ ss.map (·.name) ∧
    other ∉ ss.map (·.name)

/-- Each stack stands behind all that it waits for. -/
def Sorted (order : List Stack) : Prop :=
  ∀ before s after, order = before ++ s :: after → s.dependsOn ⊆ before.map (·.name)

variable {ss : List Stack} {done : List String}

/-! ### Missing stacks -/

theorem missing?_eq (names : List String) (ss : List Stack) :
    missing? names ss = ss.findSome? fun s =>
      (s.dependsOn.find? fun other => !names.contains other).map (.missing s.name) := by
  induction ss with
  | nil => rfl
  | cons s rest ih =>
    rw [missing?, List.findSome?_cons, ih]
    cases s.dependsOn.find? fun other => !names.contains other with
    | none => rfl
    | some other => rfl

theorem missing?_eq_none_iff : missing? (ss.map (·.name)) ss = none ↔ Complete ss := by
  simp only [missing?_eq, List.findSome?_eq_none_iff, Option.map_eq_none_iff, List.find?_eq_none,
    Bool.not_eq_true', List.contains_eq_mem, decide_eq_false_iff_not, not_not]
  rfl

theorem missing?_eq_some_iff {fault : OrderFault} :
    missing? (ss.map (·.name)) ss = some fault ↔
      ∃ s other, FirstMissing ss s other ∧ fault = .missing s.name other := by
  have known : ∀ s : Stack, (s.dependsOn.find? fun other => !(ss.map (·.name)).contains other) = none ↔
      s.dependsOn ⊆ ss.map (·.name) := by
    intro s
    simp only [List.find?_eq_none, Bool.not_eq_true', List.contains_eq_mem, decide_eq_false_iff_not,
      not_not]
    rfl
  have first : ∀ (s : Stack) other,
      (s.dependsOn.find? fun other => !(ss.map (·.name)).contains other) = some other ↔
        ∃ before after, s.dependsOn = before ++ other :: after ∧ before ⊆ ss.map (·.name) ∧
          other ∉ ss.map (·.name) := by
    intro s other
    rw [List.find?_eq_some_iff_append]
    simp only [Bool.not_eq_true', List.contains_eq_mem, decide_eq_false_iff_not, Bool.not_not,
      decide_eq_true_eq]
    constructor
    · rintro ⟨absent, before, after, split, present⟩
      exact ⟨before, after, split, present, absent⟩
    · rintro ⟨before, after, split, present, absent⟩
      exact ⟨absent, before, after, split, fun _ member => present member⟩
  simp only [missing?_eq, List.findSome?_eq_some_iff, Option.map_eq_some_iff, Option.map_eq_none_iff,
    known, first]
  constructor
  · rintro ⟨before, s, after, split, ⟨other, absent, rfl⟩, earlier⟩
    exact ⟨s, other, ⟨⟨before, after, split, earlier⟩, absent⟩, rfl⟩
  · rintro ⟨s, other, ⟨⟨before, after, split, earlier⟩, absent⟩, rfl⟩
    exact ⟨before, s, after, split, ⟨other, absent, rfl⟩, earlier⟩

/-! ### Taking stacks one after the other -/

theorem next?_eq_some {s : Stack} (found : next? ss done = some s) :
    s ∈ ss ∧ Step ss done (done ++ [s.name]) := by
  have member := List.mem_of_find?_eq_some found
  have taken := List.find?_some found
  simp only [Bool.and_eq_true, Bool.not_eq_true', List.contains_eq_mem, decide_eq_false_iff_not,
    List.all_eq_true, decide_eq_true_eq] at taken
  exact ⟨member, .complete member taken.1 (Stack.ready_eq_ok_iff.mpr taken.2)⟩

theorem not_ready_of_next?_eq_none (stuck : next? ss done = none) {s : Stack} (member : s ∈ ss)
    (new : s.name ∉ done) : ∃ other ∈ s.dependsOn, other ∉ done := by
  have held := List.find?_eq_none.mp stuck s member
  simpa [new] using held

/-- What is found is a run from the given state on. -/
theorem of_orderFrom_eq_ok {n : Nat} {order : List Stack} (made : orderFrom ss n done = .ok order) :
    order.length = n ∧ order ⊆ ss ∧ ReflTransGen (Step ss) done (done ++ order.map (·.name)) := by
  induction n generalizing done order with
  | zero =>
    cases made
    rw [List.map_nil, List.append_nil]
    exact ⟨rfl, List.nil_subset _, .refl⟩
  | succ n ih =>
    rw [orderFrom] at made
    split at made
    · cases made
    · rename_i s found
      obtain ⟨rest, later, same⟩ := Outcome.bind_eq_ok.mp made
      cases same
      obtain ⟨member, step⟩ := next?_eq_some found
      obtain ⟨length, inside, run⟩ := ih later
      rw [← List.append_cons] at run
      exact ⟨by rw [List.length_cons, length], List.cons_subset.mpr ⟨member, inside⟩, .head step run⟩

/-- Where nothing is found, a run has got stuck too early. -/
theorem of_orderFrom_eq_error {n : Nat} {fault : OrderFault}
    (failed : orderFrom ss n done = .error fault) :
    fault = .cycle ∧ ∃ stuck, ReflTransGen (Step ss) done stuck ∧ next? ss stuck = none ∧
      stuck.length < done.length + n := by
  induction n generalizing done with
  | zero => cases failed
  | succ n ih =>
    rw [orderFrom] at failed
    split at failed
    · rename_i none
      cases failed
      exact ⟨rfl, done, .refl, none, by omega⟩
    · rename_i s found
      rcases Outcome.bind_eq_error.mp failed with later | ⟨_, _, impossible⟩
      · obtain ⟨cycle, stuck, run, none, short⟩ := ih later
        rw [List.length_append, List.length_singleton] at short
        exact ⟨cycle, stuck, .head (next?_eq_some found).2 run, none, by omega⟩
      · cases impossible

/-! ### Cycles -/

/-- Where everything leads to something else of finitely many, something leads to itself. -/
theorem exists_cycle {α : Type} {r : α → α → Prop} {xs : List α} (filled : xs ≠ [])
    (next : ∀ a ∈ xs, ∃ b ∈ xs, r a b) : ∃ a, TransGen r a a := by
  by_contra none
  rw [not_exists] at none
  let below : {a // a ∈ xs} → {a // a ∈ xs} → Prop := fun b a => TransGen r a.1 b.1
  have finite : Finite {a // a ∈ xs} := xs.finite_toSet.to_subtype
  have transitive : IsTrans _ below := ⟨fun _ _ _ first second => second.trans first⟩
  have irreflexive : Std.Irrefl below := ⟨fun a => none a.1⟩
  -- So nothing leads on from a least element, whereas every element leads on.
  obtain ⟨start, member⟩ := List.exists_mem_of_ne_nil xs filled
  obtain ⟨last, _, least⟩ := (Finite.wellFounded_of_trans_of_irrefl below).has_min Set.univ
    ⟨⟨start, member⟩, trivial⟩
  obtain ⟨b, inside, edge⟩ := next last.1 last.2
  exact least ⟨b, inside⟩ trivial (.single edge)

/-- In a run that is stuck, each stack that is left waits for another one that is left. -/
theorem cyclic_of_stuck (complete : Complete ss) (names : (ss.map (·.name)).Nodup)
    (none : next? ss done = none) (short : done.length < ss.length) : Cyclic ss := by
  let left := ss.filter fun s => s.name ∉ done
  have mem_left : ∀ s, s ∈ left ↔ s ∈ ss ∧ s.name ∉ done := by
    intro s
    simp [left]
  have filled : left ≠ [] := by
    intro all
    have inside : ss.map (·.name) ⊆ done := by
      intro name member
      obtain ⟨s, listed, rfl⟩ := List.mem_map.mp member
      by_contra new
      exact List.not_mem_nil (all ▸ (mem_left s).mpr ⟨listed, new⟩)
    have few := (List.subperm_of_subset names inside).length_le
    rw [List.length_map] at few
    omega
  refine exists_cycle filled fun s member => ?_
  obtain ⟨listed, new⟩ := (mem_left s).mp member
  obtain ⟨other, waited, absent⟩ := not_ready_of_next?_eq_none none listed new
  obtain ⟨t, found, rfl⟩ := List.mem_map.mp (complete s listed waited)
  exact ⟨t, (mem_left t).mpr ⟨found, absent⟩, listed, found, waited⟩

/-- No circle leads through a completed stack: the stack would have to be completed before itself. -/
theorem Reachable.no_cycle (names : (ss.map (·.name)).Nodup) (reached : Reachable ss done) :
    ∀ s ∈ ss, s.name ∈ done → ¬ TransGen (DependsOn ss) s s := by
  induction reached with
  | refl => exact fun _ _ impossible => absurd impossible List.not_mem_nil
  | tail _ step ih =>
    cases step with
    | @complete t listed new ready =>
      intro s member completed cycle
      rcases List.mem_append.mp completed with earlier | last
      · exact ih s member earlier cycle
      · cases List.inj_on_of_nodup_map names member listed (List.mem_singleton.mp last)
        obtain ⟨b, edge, back⟩ := TransGen.head'_iff.mp cycle
        have waits := Stack.ready_eq_ok_iff.mp ready b.name edge.2.2
        exact ih b edge.2.1 waits (.tail' back edge)

/-! ### The order -/

theorem complete_of_order_eq_ok {order : List Stack} (made : Plan.order ss = .ok order) :
    Complete ss ∧ orderFrom ss ss.length [] = .ok order := by
  unfold Plan.order at made
  split at made
  · cases made
  · rename_i none
    exact ⟨missing?_eq_none_iff.mp none, made⟩

/-- An order lists all stacks, once each, as a run of the deployment. -/
theorem of_order_eq_ok {order : List Stack} (made : Plan.order ss = .ok order) :
    order.Perm ss ∧ (ss.map (·.name)).Nodup ∧ Reachable ss (order.map (·.name)) := by
  obtain ⟨length, inside, run⟩ := of_orderFrom_eq_ok (complete_of_order_eq_ok made).2
  rw [List.nil_append] at run
  have distinct := (Reachable.orderly run).distinct
  have all : order.Perm ss :=
    (List.subperm_of_subset distinct.of_map inside).perm_of_length_le length.ge
  exact ⟨all, (all.map _).nodup_iff.mp distinct, run⟩

theorem sorted_of_order_eq_ok {order : List Stack} (made : Plan.order ss = .ok order) :
    Sorted order := by
  obtain ⟨all, names, run⟩ := of_order_eq_ok made
  intro before s after split
  have listed : s ∈ ss := by
    rw [← all.mem_iff, split]
    exact List.mem_append_right _ (List.mem_cons_self ..)
  have parts : order.map (·.name) = before.map (·.name) ++ s.name :: after.map (·.name) := by
    rw [split, List.map_append, List.map_cons]
  exact run.orderly.waits names listed parts

theorem acyclic_of_order_eq_ok {order : List Stack} (made : Plan.order ss = .ok order) :
    ¬ Cyclic ss := by
  obtain ⟨all, names, run⟩ := of_order_eq_ok made
  rintro ⟨s, cycle⟩
  obtain ⟨_, edge, _⟩ := TransGen.head'_iff.mp cycle
  exact run.no_cycle names s edge.1 ((all.map _).mem_iff.mpr (List.mem_map_of_mem edge.1)) cycle

theorem order_eq_missing_iff {stack other : String} :
    Plan.order ss = .error (.missing stack other) ↔
      ∃ s, FirstMissing ss s other ∧ s.name = stack := by
  have found : Plan.order ss = .error (.missing stack other) ↔
      missing? (ss.map (·.name)) ss = some (.missing stack other) := by
    unfold Plan.order
    cases missing? (ss.map (·.name)) ss with
    | some fault => simp
    | none =>
      constructor
      · intro failed
        cases (of_orderFrom_eq_error failed).1
      · intro impossible
        cases impossible
  rw [found, missing?_eq_some_iff]
  constructor
  · rintro ⟨s, _, first, same⟩
    cases same
    exact ⟨s, first, rfl⟩
  · rintro ⟨s, first, rfl⟩
    exact ⟨s, other, first, rfl⟩

theorem order_eq_cycle_iff (names : (ss.map (·.name)).Nodup) :
    Plan.order ss = .error .cycle ↔ Complete ss ∧ Cyclic ss := by
  have start : Plan.order ss = .error .cycle ↔ Complete ss ∧ orderFrom ss ss.length [] = .error .cycle := by
    rw [← missing?_eq_none_iff]
    unfold Plan.order
    cases found : missing? (ss.map (·.name)) ss with
    | some fault =>
      obtain ⟨_, _, _, rfl⟩ := missing?_eq_some_iff.mp found
      simp
    | none => simp
  rw [start]
  refine and_congr_right fun complete => ?_
  constructor
  · intro failed
    obtain ⟨_, stuck, _, none, short⟩ := of_orderFrom_eq_error failed
    rw [List.length_nil, Nat.zero_add] at short
    exact cyclic_of_stuck complete names none short
  · intro cyclic
    cases outcome : orderFrom ss ss.length [] with
    | error fault => rw [(of_orderFrom_eq_error outcome).1]
    | ok order =>
      have made : Plan.order ss = .ok order := by
        rw [Plan.order, missing?_eq_none_iff.mpr complete]
        exact outcome
      exact absurd cyclic (acyclic_of_order_eq_ok made)

theorem exists_missing_iff :
    (∃ stack other, Plan.order ss = .error (.missing stack other)) ↔ ¬ Complete ss := by
  constructor
  · rintro ⟨stack, other, failed⟩ complete
    obtain ⟨s, ⟨⟨before, after, split, _⟩, earlier, later, waits, _, absent⟩, _⟩ :=
      order_eq_missing_iff.mp failed
    have listed : s ∈ ss := by
      rw [split]
      exact List.mem_append_right _ (List.mem_cons_self ..)
    refine absent (complete s listed ?_)
    rw [waits]
    exact List.mem_append_right _ (List.mem_cons_self ..)
  · intro incomplete
    cases found : missing? (ss.map (·.name)) ss with
    | none => exact absurd (missing?_eq_none_iff.mp found) incomplete
    | some fault =>
      obtain ⟨s, other, first, _⟩ := missing?_eq_some_iff.mp found
      exact ⟨s.name, other, order_eq_missing_iff.mpr ⟨s, first, rfl⟩⟩

theorem missing_ne_cycle (stack other : String) :
    (OrderFault.missing stack other).error ≠ OrderFault.cycle.error := by
  intro same
  have starts := congrArg (fun text => text.toList.take 7) (Error.crossRegion.inj same)
  simp at starts

theorem deploymentOrder_eq_error {p : Plan} {e : Error} :
    p.deploymentOrder = .error e ↔ ∃ fault, Plan.order p.allStacks = .error fault ∧ fault.error = e :=
  Outcome.mapError_eq_error

theorem exists_deploymentOrder_missing_iff {p : Plan} :
    (∃ stack other, p.deploymentOrder = .error (OrderFault.missing stack other).error) ↔
      ¬ Complete p.allStacks := by
  rw [← exists_missing_iff]
  constructor
  · rintro ⟨stack, other, failed⟩
    obtain ⟨fault, failed, same⟩ := deploymentOrder_eq_error.mp failed
    cases fault with
    | missing stack other => exact ⟨stack, other, failed⟩
    | cycle => exact absurd same.symm (missing_ne_cycle stack other)
  · rintro ⟨stack, other, failed⟩
    exact ⟨stack, other, deploymentOrder_eq_error.mpr ⟨_, failed, rfl⟩⟩

theorem deploymentOrder_eq_cycle_iff {p : Plan} (names : (p.allStacks.map (·.name)).Nodup) :
    p.deploymentOrder = .error OrderFault.cycle.error ↔ Complete p.allStacks ∧ Cyclic p.allStacks := by
  rw [← order_eq_cycle_iff names, deploymentOrder_eq_error]
  constructor
  · rintro ⟨fault, failed, same⟩
    cases fault with
    | missing stack other => exact absurd same (missing_ne_cycle stack other)
    | cycle => exact failed
  · intro failed
    exact ⟨_, failed, rfl⟩

theorem exists_deploymentOrder_iff {p : Plan} (names : (p.allStacks.map (·.name)).Nodup) :
    (∃ order, p.deploymentOrder = .ok order) ↔ Complete p.allStacks ∧ ¬ Cyclic p.allStacks := by
  constructor
  · rintro ⟨order, found⟩
    have made := Outcome.mapError_eq_ok.mp found
    exact ⟨(complete_of_order_eq_ok made).1, acyclic_of_order_eq_ok made⟩
  · rintro ⟨complete, acyclic⟩
    cases outcome : Plan.order p.allStacks with
    | ok order => exact ⟨order, Outcome.mapError_eq_ok.mpr outcome⟩
    | error fault =>
      cases fault with
      | missing stack other => exact absurd complete (exists_missing_iff.mp ⟨stack, other, outcome⟩)
      | cycle => exact absurd ((order_eq_cycle_iff names).mp outcome).2 acyclic

/-- The order of deployment is an exact topological sort. It fails first for a stack that is waited
for and not in the plan. Under names that differ it fails otherwise for a cycle, and else it lists all
stacks once, each behind what it waits for. Under names that do not differ there is no order. -/
theorem deploymentOrder_exact (p : Plan) :
    ((∃ stack other, p.deploymentOrder = .error (OrderFault.missing stack other).error) ↔
      ∃ s ∈ p.allStacks, ∃ other ∈ s.dependsOn, other ∉ p.allStacks.map (·.name)) ∧
    (∀ s other, FirstMissing p.allStacks s other →
      p.deploymentOrder = .error (OrderFault.missing s.name other).error) ∧
    ((p.allStacks.map (·.name)).Nodup →
      (p.deploymentOrder = .error OrderFault.cycle.error ↔
        Complete p.allStacks ∧ Cyclic p.allStacks) ∧
      ((∃ order, p.deploymentOrder = .ok order) ↔ Complete p.allStacks ∧ ¬ Cyclic p.allStacks) ∧
      ∀ order, p.deploymentOrder = .ok order → order.Perm p.allStacks ∧ Sorted order) ∧
    (¬ (p.allStacks.map (·.name)).Nodup → ∃ e, p.deploymentOrder = .error e) := by
  refine ⟨?_, ?_, fun names => ⟨deploymentOrder_eq_cycle_iff names,
    exists_deploymentOrder_iff names, ?_⟩, ?_⟩
  · rw [exists_deploymentOrder_missing_iff]
    simp [Complete, List.subset_def]
  · intro s other first
    exact deploymentOrder_eq_error.mpr ⟨_, order_eq_missing_iff.mpr ⟨s, first, rfl⟩, rfl⟩
  · intro order found
    have made := Outcome.mapError_eq_ok.mp found
    exact ⟨(of_order_eq_ok made).1, sorted_of_order_eq_ok made⟩
  · intro repeated
    cases outcome : p.deploymentOrder with
    | error e => exact ⟨e, rfl⟩
    | ok order => exact absurd (of_order_eq_ok (Outcome.mapError_eq_ok.mp outcome)).2.1 repeated

/-- A stack with nothing in it that waits for others. -/
private def waiting (name : String) (others : List String) : Stack :=
  { Stack.empty name "us-west-2" with dependsOn := others }

/-- A plan whose stacks are listed before those that they wait for. -/
private def layered : Plan where
  topology := .direct ⟨.internal, .hidden, [], none, .initial⟩
  allStacks := [waiting "Site" ["Network", "Data"], waiting "Data" ["Network"], waiting "Network" []]
  baseUrl := ""
  targetGroups := []

/-- The stacks are put into the opposite order, so they form no cycle. -/
theorem deploymentOrder_exact_layered :
    (layered.allStacks.map (·.name)).Nodup ∧
      layered.deploymentOrder =
        .ok [waiting "Network" [], waiting "Data" ["Network"], waiting "Site" ["Network", "Data"]] ∧
      Complete layered.allStacks ∧ ¬ Cyclic layered.allStacks := by
  have names : (layered.allStacks.map (·.name)).Nodup := by decide
  have found : layered.deploymentOrder =
      .ok [waiting "Network" [], waiting "Data" ["Network"], waiting "Site" ["Network", "Data"]] := rfl
  obtain ⟨_, exists_iff, _⟩ := (deploymentOrder_exact layered).2.2.1 names
  exact ⟨names, found, exists_iff.mp ⟨_, found⟩⟩

end Perimeter.Plan
