import Mathlib.Data.List.MinMax
import Perimeter.Proofs.Listener.Run
import Perimeter.Proofs.Pattern
import Perimeter.Route.Services

/-!
Where requests go. A listener sends a request to the target group of the matching rule with the
lowest priority (`Planner.destination?`). After any run of a fresh planner that is the target group
of the first accepted service with a matching pattern: batches and priorities leave no trace.
-/

namespace Perimeter

/-- A pattern of the route matches the path. -/
def Route.Serves (r : Route) (path : String) : Prop :=
  ∃ pattern ∈ r.expandedPatterns, Pattern.Matches pattern.toList path.toList

/-- A pattern of the rule matches the path. -/
def PlannedRule.Matches (rule : PlannedRule) (path : String) : Prop :=
  ∃ pattern ∈ rule.patterns, Pattern.Matches pattern.toList path.toList

instance (r : Route) (path : String) : Decidable (r.Serves path) :=
  inferInstanceAs (Decidable (∃ pattern ∈ r.expandedPatterns, _))

instance (rule : PlannedRule) (path : String) : Decidable (rule.Matches path) :=
  inferInstanceAs (Decidable (∃ pattern ∈ rule.patterns, _))

namespace Planner

/-- The target group to which a listener with the planned rules sends a request: that of the
matching rule with the lowest priority. -/
def destination? (p : Planner) (path : String) : Option LogicalId :=
  ((p.rules.filter fun rule => rule.Matches path).argmin fun rule => rule.priority.value.toNat).map
    (·.targetGroup)

private theorem argmin_ascending {α : Type} (f : α → Nat) {xs : List α}
    (ascending : xs.Pairwise fun a b => f a < f b) : xs.argmin f = xs.head? := by
  induction xs with
  | nil => rfl
  | cons a as ih =>
    obtain ⟨above, rest⟩ := List.pairwise_cons.mp ascending
    rw [List.argmin_cons, ih rest, List.head?_cons]
    cases as with
    | nil => rfl
    | cons b bs =>
      have less := above b (List.mem_cons_self ..)
      exact if_neg (Nat.lt_asymm less)

theorem Records.ascending {p : Planner} {services : List Service} (records : p.Records services) :
    p.rules.Pairwise fun a b => a.priority.value.toNat < b.priority.value.toNat := by
  have sorted := List.pairwise_lt_range' (s := 1) (n := p.rules.length)
  rw [← records.priorities] at sorted
  exact List.pairwise_map.mp sorted

/-- With ascending priorities, the first matching rule is the one that decides. -/
theorem destination?_eq_find? {p : Planner} {services : List Service} (records : p.Records services)
    (path : String) :
    p.destination? path = (p.rules.find? fun rule => rule.Matches path).map (·.targetGroup) := by
  rw [destination?, argmin_ascending _ (records.ascending.filter _), List.head?_filter]

/-! ### The rules of one service -/

/-- Some batch of a service matches a path if and only if some pattern of the service does. -/
private theorem exists_mem_block_iff (s : Service) (path : String) :
    (∃ c ∈ block s, ∃ pattern ∈ c.2.2.1, Pattern.Matches pattern.toList path.toList) ↔
      s.1.Serves path := by
  have all : ((block s).map (·.2.2.1)).flatten = s.1.expandedPatterns := by
    rw [patterns_block, Batch.flatten_batches]
  unfold Route.Serves
  rw [← all]
  constructor
  · rintro ⟨c, member, pattern, listed, found⟩
    exact ⟨pattern, List.mem_flatten.mpr ⟨c.2.2.1, List.mem_map.mpr ⟨c, member, rfl⟩, listed⟩, found⟩
  · rintro ⟨pattern, listed, found⟩
    obtain ⟨_, member, inside⟩ := List.mem_flatten.mp listed
    obtain ⟨c, inBlock, rfl⟩ := List.mem_map.mp member
    exact ⟨c, inBlock, pattern, inside, found⟩

private theorem find?_block (s : Service) (path : String) :
    ((block s).find? fun c => ∃ pattern ∈ c.2.2.1, Pattern.Matches pattern.toList path.toList).map
        (·.2.2.2) = if s.1.Serves path then some s.2.targetGroup else none := by
  by_cases serves : s.1.Serves path
  · rw [if_pos serves]
    obtain ⟨c, member, found⟩ := (exists_mem_block_iff s path).mpr serves
    cases first : (block s).find? fun c =>
        ∃ pattern ∈ c.2.2.1, Pattern.Matches pattern.toList path.toList with
    | none =>
      have no := List.find?_eq_none.mp first c member
      exact absurd (decide_eq_true found) no
    | some c => exact congrArg some (group_of_mem_block (List.mem_of_find?_eq_some first))
  · rw [if_neg serves, Option.map_eq_none_iff, List.find?_eq_none]
    intro c member found
    exact serves ((exists_mem_block_iff s path).mp ⟨c, member, of_decide_eq_true found⟩)

/-! ### The rules of a run -/

private theorem find?_blocks (services : List Service) (path : String) :
    ((services.flatMap block).find? fun c =>
        ∃ pattern ∈ c.2.2.1, Pattern.Matches pattern.toList path.toList).map (·.2.2.2) =
      (services.find? fun s => s.1.Serves path).map (·.2.targetGroup) := by
  induction services with
  | nil => rfl
  | cons s services ih =>
    rw [List.flatMap_cons, List.find?_append, Option.map_or, find?_block, ih]
    by_cases serves : s.1.Serves path
    · rw [if_pos serves, List.find?_cons_of_pos (by exact decide_eq_true serves)]
      rfl
    · rw [if_neg serves, List.find?_cons_of_neg (by simpa using serves), Option.none_or]

/-- A request goes to the first service, in the order of registration, that has a matching
pattern. -/
theorem Records.destination? {p : Planner} {services : List Service} (records : p.Records services)
    (path : String) :
    p.destination? path = (services.find? fun s => s.1.Serves path).map (·.2.targetGroup) := by
  rw [destination?_eq_find? records, ← find?_blocks, ← records.rules, List.find?_map, Option.map_map]
  rfl

/-- A rule matches a path if and only if a service has a matching pattern. -/
theorem Records.exists_rule_iff {p : Planner} {services : List Service}
    (records : p.Records services) (path : String) :
    (∃ rule ∈ p.rules, rule.Matches path) ↔ ∃ s ∈ services, s.1.Serves path := by
  constructor
  · rintro ⟨rule, member, found⟩
    have listed : content rule ∈ services.flatMap block := by
      rw [← records.rules]
      exact List.mem_map_of_mem member
    obtain ⟨s, accepted, inside⟩ := List.mem_flatMap.mp listed
    exact ⟨s, accepted, (exists_mem_block_iff s path).mp ⟨content rule, inside, found⟩⟩
  · rintro ⟨s, accepted, serves⟩
    obtain ⟨c, inside, found⟩ := (exists_mem_block_iff s path).mpr serves
    have listed : c ∈ p.rules.map content := by
      rw [records.rules]
      exact List.mem_flatMap.mpr ⟨s, accepted, inside⟩
    obtain ⟨rule, member, rfl⟩ := List.mem_map.mp listed
    exact ⟨rule, member, found⟩

/-- One more accepted service gets what no earlier service has a pattern for. -/
private theorem destination?_register {p : Planner} {services : List Service}
    (records : p.Records services) {r : Route} {binding : TargetBinding}
    (ok : (p.register r).1 = .ok binding) (path : String) :
    (p.register r).2.destination? path =
      (p.destination? path).or (if r.Serves path then some binding.targetGroup else none) := by
  rcases register_cases records.counted r with ⟨e, _, outcome⟩ | ⟨group, pairs, prepared, outcome⟩
  · rw [outcome] at ok
    cases ok
  · rw [outcome] at ok
    cases ok
    have later := (records_grown records prepared).destination? path
    rw [outcome, later, records.destination? path, List.find?_append, Option.map_or]
    by_cases serves : r.Serves path
    · rw [if_pos serves, List.find?_cons_of_pos (by exact decide_eq_true serves)]
      rfl
    · rw [if_neg serves, List.find?_cons_of_neg (by simpa using serves)]
      rfl

/-- After any attempts to register services with a fresh planner, a request goes to the target group
of the first accepted service with a matching pattern, and no rule matches it if there is no such
service. So a service accepted later takes nothing away from the earlier ones. -/
theorem first_accepted_service_decides (listener : LogicalId) (profile : HealthProfile)
    (suffix : String) (routes : List Route) (path : String) :
    let p := (empty listener profile suffix).run routes
    let services := (empty listener profile suffix).accepted routes
    p.targetGroups = services.map (fun s => p.targetGroup s.1 s.2.targetGroup) ∧
    p.destination? path = (services.find? fun s => s.1.Serves path).map (·.2.targetGroup) ∧
    ((∀ rule ∈ p.rules, ¬ rule.Matches path) ↔ ∀ s ∈ services, ¬ s.1.Serves path) ∧
    ∀ r binding group, (p.register r).1 = .ok binding → p.destination? path = some group →
      (p.register r).2.destination? path = some group := by
  intro p services
  have records : p.Records services := records_fresh listener profile suffix routes
  refine ⟨records.groups, records.destination? path, ?_, ?_⟩
  · have same := not_congr (records.exists_rule_iff path)
    simpa only [not_exists, not_and] using same
  · intro r binding group ok before
    rw [destination?_register records ok path, before]
    rfl

/-- Attempts of which the last one is refused. -/
private def mixedAttempts : List Route := [
  ⟨.literal "Files", 5003, .http "/", ["/f?/a*b", "/files"]⟩, .api,
  ⟨.literal "Extra", 5004, .http "/", ["/v1/x"]⟩]

/-- The front end asks for everything and gets nothing of what an earlier service has. -/
theorem first_accepted_service_decides_files :
    (((empty (.literal "AlbListener") .direct).run mixedAttempts).register .web).1 =
        .ok ⟨.literal "Web", .literal "WebTargetGroup", 3000⟩ ∧
    ((empty (.literal "AlbListener") .direct).run mixedAttempts).destination? "/fx/a/b" =
        some (.literal "FilesTargetGroup") ∧
    (((empty (.literal "AlbListener") .direct).run mixedAttempts).register .web).2.destination?
        "/fx/a/b" = some (.literal "FilesTargetGroup") := by
  have accepted : (((empty (.literal "AlbListener") .direct).run mixedAttempts).register .web).1 =
      .ok ⟨.literal "Web", .literal "WebTargetGroup", 3000⟩ := by decide +kernel
  have routed : ((empty (.literal "AlbListener") .direct).run mixedAttempts).destination? "/fx/a/b" =
      some (.literal "FilesTargetGroup") := by decide +kernel
  exact ⟨accepted, routed, (first_accepted_service_decides (.literal "AlbListener") .direct
    "TargetGroup" mixedAttempts "/fx/a/b").2.2.2 .web _ _ accepted routed⟩

end Planner

end Perimeter
