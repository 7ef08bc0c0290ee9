import Perimeter.Listener.Planner
import Perimeter.Proofs.Batch
import Perimeter.Proofs.Listener.Allocation
import Perimeter.Proofs.Naming
import Perimeter.Proofs.Outcome

/-!
One registration. While a planner is `Counted`, a route is either refused, and then nothing
changes, or it is accepted, and then the planner has grown by exactly what the route brings
(`register_cases`). It is accepted under conditions that do not mention how the planner came about
(`register_accepts_iff`).
-/

namespace Perimeter

namespace Route

/-- The number of rules that a route needs. -/
def ruleCount (r : Route) : Nat := Batch.count r.expandedPatterns.length Batch.maxValues

theorem length_batches (r : Route) : (Batch.batches r.expandedPatterns).length = r.ruleCount :=
  Batch.length_batches _

end Route

namespace Planner

/-- The text of the name of a rule of a service. -/
def ruleName (service : ServiceId) (i : Nat) : String := service.text ++ ("Rule" ++ toString i)

/-- Every rule has used up one priority, and there are no more rules than allowed. -/
structure Counted (p : Planner) : Prop where
  few : p.rules.length ≤ maxRules
  upcoming : p.priorities.upcoming.toNat = p.rules.length + 1

theorem counted_empty (listener : LogicalId) (profile : HealthProfile) (suffix : String) :
    (empty listener profile suffix).Counted := ⟨by simp [empty], rfl⟩

/-! ### Appending rules -/

/-- The rules of a service, with priorities from `first` on. -/
def numbered (service : ServiceId) (group : LogicalId) :
    (first : Nat) → List (LogicalId × List String) → List PlannedRule
  | _, [] => []
  | first, (id, patterns) :: rest =>
    ⟨id, service, ⟨.ofNat first⟩, patterns, group⟩ :: numbered service group (first + 1) rest

theorem length_numbered (service : ServiceId) (group : LogicalId) (first : Nat)
    (pairs : List (LogicalId × List String)) :
    (numbered service group first pairs).length = pairs.length := by
  induction pairs generalizing first with
  | nil => rfl
  | cons pair pairs ih => rw [numbered, List.length_cons, List.length_cons, ih]

theorem priorities_numbered (service : ServiceId) (group : LogicalId) (first : Nat)
    (pairs : List (LogicalId × List String)) (small : first + pairs.length ≤ 50001) :
    (numbered service group first pairs).map (·.priority.value.toNat) =
      List.range' first pairs.length := by
  induction pairs generalizing first with
  | nil => rfl
  | cons pair pairs ih =>
    rw [List.length_cons] at small
    have value : (UInt32.ofNat first).toNat = first := by
      rw [UInt32.toNat_ofNat']
      omega
    rw [numbered, List.map_cons, List.length_cons, List.range'_succ, ih (first + 1) (by omega), value]

/-- All of a rule but its priority, with its name as a text. -/
def content (rule : PlannedRule) : String × ServiceId × List String × LogicalId :=
  (rule.id.text, rule.service, rule.patterns, rule.targetGroup)

theorem content_numbered (service : ServiceId) (group : LogicalId) (first : Nat)
    (pairs : List (LogicalId × List String)) :
    (numbered service group first pairs).map content =
      pairs.map fun pair => (pair.1.text, service, pair.2, group) := by
  induction pairs generalizing first with
  | nil => rfl
  | cons pair pairs ih =>
    rw [numbered, List.map_cons, List.map_cons, ih]
    rfl

/-- The allocator does not run dry while the priorities in use stay below the highest one. -/
theorem appendRules_eq (service : ServiceId) (group : LogicalId)
    (pairs : List (LogicalId × List String)) (p : Planner)
    (small : p.priorities.upcoming.toNat + pairs.length ≤ 50001) :
    appendRules service group pairs p = (.ok (), { p with
      priorities := ⟨.ofNat (p.priorities.upcoming.toNat + pairs.length)⟩
      rules := p.rules ++ numbered service group p.priorities.upcoming.toNat pairs }) := by
  induction pairs generalizing p with
  | nil =>
    rw [appendRules, List.length_nil, Nat.add_zero, UInt32.ofNat_toNat, numbered, List.append_nil]
  | cons pair pairs ih =>
    obtain ⟨id, patterns⟩ := pair
    rw [List.length_cons] at small
    have issued := Priority.Allocator.next_eq_ok (a := p.priorities) (by omega)
    have advanced : (p.priorities.upcoming + 1).toNat = p.priorities.upcoming.toNat + 1 := by
      rw [UInt32.toNat_add]
      simp only [UInt32.reduceToNat]
      omega
    rw [appendRules, issued]
    simp only
    rw [ih _ (by simp only [advanced]; omega)]
    simp only [advanced, numbered, UInt32.ofNat_toNat, List.append_assoc, List.singleton_append,
      List.length_cons]
    rw [Nat.add_assoc, Nat.add_comm 1]

/-! ### What a registration checks -/

private theorem overlap?_eq_none (claimed : List (ServiceId × String)) (service : ServiceId)
    (patterns : List String) :
    overlap? claimed service patterns = none ↔
      ∀ pattern ∈ patterns, ∀ claim ∈ claimed, claim.1 ≠ service →
        Pattern.covers claim.2 pattern = false := by
  induction patterns with
  | nil => simp [overlap?]
  | cons pattern patterns ih =>
    have here : shadowing? claimed service pattern = none ↔
        ∀ claim ∈ claimed, claim.1 ≠ service → Pattern.covers claim.2 pattern = false := by
      simp [shadowing?, List.find?_eq_none]
    rw [List.forall_mem_cons, ← ih, ← here, overlap?]
    cases shadowing? claimed service pattern with
    | none => simp
    | some claim => simp

/-- A refusal for overlap names a pattern of the route and the claim of another service that
covers it. -/
theorem overlap?_eq_some {claimed : List (ServiceId × String)} {service : ServiceId}
    {patterns : List String} {refusal : Refusal}
    (found : overlap? claimed service patterns = some refusal) :
    ∃ pattern ∈ patterns, ∃ claim ∈ claimed, claim.1 ≠ service ∧
      Pattern.covers claim.2 pattern = true ∧ refusal = .shadowed pattern claim.2 claim.1 := by
  induction patterns with
  | nil => cases found
  | cons pattern patterns ih =>
    rw [overlap?] at found
    cases here : shadowing? claimed service pattern with
    | none =>
      rw [here] at found
      obtain ⟨later, member, rest⟩ := ih found
      exact ⟨later, List.mem_cons_of_mem _ member, rest⟩
    | some claim =>
      rw [here] at found
      cases found
      have covering := List.find?_some here
      simp only [Bool.and_eq_true, bne_iff_ne] at covering
      exact ⟨pattern, List.mem_cons_self .., claim, List.mem_of_find?_eq_some here, covering.1,
        covering.2, rfl⟩

/-- No earlier service has the name of the route's service. -/
def Unregistered (p : Planner) (r : Route) : Prop := ∀ group ∈ p.targetGroups, group.service ≠ r.service

/-- No claim of another service covers a pattern of the route. -/
def Unshadowed (p : Planner) (r : Route) : Prop :=
  ∀ pattern ∈ r.expandedPatterns, ∀ claim ∈ p.claimed, claim.1 ≠ r.service →
    Pattern.covers claim.2 pattern = false

private theorem registered_iff (p : Planner) (r : Route) :
    (p.targetGroups.any fun group => group.service == r.service) = true ↔ ¬ p.Unregistered r := by
  simp [Unregistered]

/-- The allocator of a counted planner has issued one priority for each rule. -/
theorem Counted.counts {p : Planner} (counted : p.Counted) :
    p.priorities.Counts p.rules.length := by
  have few := counted.few
  have limit : maxRules = 100 := rfl
  exact ⟨by omega, counted.upcoming⟩

theorem Counted.upcoming_le {p : Planner} (counted : p.Counted) :
    p.priorities.upcoming ≤ Priority.maximum + 1 := counted.counts.upcoming_le

theorem Counted.remaining_eq {p : Planner} (counted : p.Counted) :
    p.priorities.remaining.toNat = 50000 - p.rules.length := counted.counts.remaining_eq

/-- While a planner is counted, the priorities last as long as the room for rules. -/
theorem Counted.enough {p : Planner} (counted : p.Counted) {needed : Nat}
    (room : p.rules.length + needed ≤ maxRules) : ¬ p.priorities.remaining.toNat < needed := by
  have limit : maxRules = 100 := rfl
  rw [counted.remaining_eq]
  omega

theorem refusal?_eq_none {p : Planner} (counted : p.Counted) (r : Route) :
    p.refusal? r = none ↔
      p.Unregistered r ∧ p.Unshadowed r ∧ p.rules.length + r.ruleCount ≤ maxRules := by
  unfold refusal?
  by_cases new : p.Unregistered r
  · rw [if_neg (fun registered => (registered_iff p r).mp registered new)]
    have overlap := overlap?_eq_none p.claimed r.service r.expandedPatterns
    cases found : overlap? p.claimed r.service r.expandedPatterns with
    | some refusal =>
      rw [found] at overlap
      constructor
      · intro impossible
        cases impossible
      · rintro ⟨_, clear, _⟩
        cases overlap.mpr clear
    | none =>
      have clear : p.Unshadowed r := overlap.mp found
      by_cases room : p.rules.length + r.ruleCount ≤ maxRules
      · have enough := counted.enough room
        simp only [Route.ruleCount] at room enough
        simp only [if_neg (Nat.not_lt.mpr room), if_neg enough, true_iff]
        exact ⟨new, clear, room⟩
      · have full := Nat.lt_of_not_le room
        simp only [Route.ruleCount] at full
        simp only [if_pos full, reduceCtorEq, false_iff]
        rintro ⟨_, _, fits⟩
        exact room fits
  · rw [if_pos ((registered_iff p r).mpr new)]
    constructor
    · intro impossible
      cases impossible
    · rintro ⟨free, _⟩
      exact absurd free new

theorem ruleIds_eq_ok (service : ServiceId) (count : Nat) (ids : List LogicalId) :
    ruleIds service count = .ok ids ↔
      ids.map (·.text) = (List.range count).map (ruleName service) := by
  rw [ruleIds, Outcome.mapM_eq_ok, eq_comm, ← List.forall₂_eq_eq_eq, List.forall₂_map_left_iff,
    List.forall₂_map_right_iff]
  refine Iff.of_eq (congrArg (List.Forall₂ · _ _) ?_)
  funext i id
  rw [Ident.child, Ident.ofText_eq_ok, ruleName]
  exact propext eq_comm

/-- The checks of a registration that do not concern names. -/
def screen (p : Planner) (r : Route) : Except Error Unit :=
  r.validate >>= fun _ => match p.refusal? r with
    | some refusal => .error (refusal.error p.listener r.service)
    | none => .ok ()

/-- The rules of a route by name and batch. -/
def ruleBatches (r : Route) : Except Error (List (LogicalId × List String)) := do
  let ids ← ruleIds r.service r.ruleCount
  let batches ← Batch.ofList r.expandedPatterns Batch.maxValues
  return ids.zip batches

/-- A registration is screened first, then the names are made. -/
theorem prepare_eq (p : Planner) (r : Route) : p.prepare r = do
    p.screen r
    let group ← r.service.child p.suffix
    let pairs ← ruleBatches r
    return (group, pairs) := by
  unfold prepare screen
  cases r.validate with
  | error e => rfl
  | ok _ =>
    cases p.refusal? r with
    | some refusal => rfl
    | none =>
      simp only [ruleBatches, bind_assoc, pure_bind]
      rfl

private theorem screen_eq_ok_iff (p : Planner) (r : Route) :
    p.screen r = .ok () ↔ r.validate = .ok () ∧ p.refusal? r = none := by
  rw [screen, Outcome.bind_eq_ok]
  constructor
  · rintro ⟨⟨⟩, valid, rest⟩
    cases refusal : p.refusal? r with
    | some refusal =>
      rw [refusal] at rest
      cases rest
    | none => exact ⟨valid, rfl⟩
  · rintro ⟨valid, refusal⟩
    exact ⟨(), valid, by rw [refusal]⟩

private theorem ruleBatches_eq_ok_iff (r : Route) (pairs : List (LogicalId × List String)) :
    ruleBatches r = .ok pairs ↔ ∃ ids, ruleIds r.service r.ruleCount = .ok ids ∧
      pairs = ids.zip (Batch.batches r.expandedPatterns) := by
  rw [ruleBatches, Outcome.bind_eq_ok]
  refine exists_congr fun ids => and_congr_right fun _ => ?_
  rw [Batch.ofList_maxValues]
  constructor
  · intro same
    exact (Except.ok.inj same).symm
  · rintro rfl
    rfl

private theorem prepare_eq_ok (p : Planner) (r : Route) (group : LogicalId)
    (pairs : List (LogicalId × List String)) :
    p.prepare r = .ok (group, pairs) ↔ r.validate = .ok () ∧ p.refusal? r = none ∧
      r.service.child p.suffix = .ok group ∧
      ∃ ids, ruleIds r.service r.ruleCount = .ok ids ∧
        pairs = ids.zip (Batch.batches r.expandedPatterns) := by
  rw [prepare_eq, ← ruleBatches_eq_ok_iff, ← and_assoc, ← screen_eq_ok_iff]
  simp only [Outcome.bind_eq_ok]
  constructor
  · rintro ⟨⟨⟩, screened, _, named, _, made, same⟩
    cases same
    exact ⟨screened, named, made⟩
  · rintro ⟨screened, named, made⟩
    exact ⟨(), screened, group, named, pairs, made, rfl⟩

/-- What a registration fails with: a fault of the route, a refusal, or a name that is too long. -/
theorem of_prepare_eq_error {p : Planner} {r : Route} {e : Error} (failed : p.prepare r = .error e) :
    (∃ fault : Route.Fault, e = fault.error r) ∨
    (∃ refusal : Refusal, e = refusal.error p.listener r.service) ∨
    ∃ name, e = Ident.malformed .logical name := by
  have naming : ∀ (service : ServiceId) (suffix : String), service.child suffix = .error e →
      ∃ name, e = Ident.malformed .logical name := by
    intro service suffix wrong
    unfold Ident.child Ident.ofText at wrong
    split at wrong
    · cases wrong
    · cases wrong
      exact ⟨_, rfl⟩
  rw [prepare_eq] at failed
  rcases Outcome.bind_eq_error.mp failed with screened | ⟨_, _, failed⟩
  · rcases Outcome.bind_eq_error.mp screened with invalid | ⟨_, _, refused⟩
    · unfold Route.validate at invalid
      split at invalid
      · cases invalid
        exact .inl ⟨_, rfl⟩
      · cases invalid
    · split at refused
      · cases refused
        exact .inr (.inl ⟨_, rfl⟩)
      · cases refused
  rcases Outcome.bind_eq_error.mp failed with group | ⟨_, _, failed⟩
  · exact .inr (.inr (naming _ _ group))
  rcases Outcome.bind_eq_error.mp failed with rules | ⟨_, _, impossible⟩
  · rcases Outcome.bind_eq_error.mp rules with ids | ⟨_, _, batches⟩
    · obtain ⟨i, _, wrong⟩ := Outcome.of_mapM_eq_error ids
      exact .inr (.inr (naming _ _ wrong))
    · rw [Batch.ofList_maxValues] at batches
      cases batches
  · cases impossible

/-! ### The step -/

private theorem names_zip {ids : List LogicalId} {batches : List (List String)}
    (sameLength : ids.length = batches.length) :
    (ids.zip batches).map (·.1.text) = ids.map (·.text) := by
  have firsts := List.map_fst_zip (Nat.le_of_eq sameLength)
  have texts := congrArg (List.map fun id : LogicalId => id.text) firsts
  rwa [List.map_map] at texts

/-- What a successful preparation settles: the route passes every check, and its rules are the
batches of its patterns, named in order. -/
structure Prepared (p : Planner) (r : Route) (group : LogicalId)
    (pairs : List (LogicalId × List String)) : Prop where
  valid : r.validate = .ok ()
  new : p.Unregistered r
  clear : p.Unshadowed r
  room : p.rules.length + r.ruleCount ≤ maxRules
  groupName : group.text = r.service.text ++ p.suffix
  ruleNames : pairs.map (·.1.text) = (List.range r.ruleCount).map (ruleName r.service)
  batches : pairs.map (·.2) = Batch.batches r.expandedPatterns

theorem prepare_eq_ok_iff {p : Planner} (counted : p.Counted) (r : Route) (group : LogicalId)
    (pairs : List (LogicalId × List String)) :
    p.prepare r = .ok (group, pairs) ↔ p.Prepared r group pairs := by
  rw [prepare_eq_ok, refusal?_eq_none counted]
  constructor
  · rintro ⟨valid, ⟨new, clear, room⟩, named, ids, numbers, rfl⟩
    have names := (ruleIds_eq_ok _ _ _).mp numbers
    have sameLength : ids.length = (Batch.batches r.expandedPatterns).length := by
      have lengths := congrArg List.length names
      simpa [Route.length_batches] using lengths
    refine ⟨valid, new, clear, room, Ident.ofText_eq_ok.mp named, ?_, ?_⟩
    · rw [← names, names_zip sameLength]
    · rw [List.map_snd_zip (Nat.le_of_eq sameLength.symm)]
  · rintro ⟨valid, new, clear, room, groupName, ruleNames, batches⟩
    refine ⟨valid, ⟨new, clear, room⟩, Ident.ofText_eq_ok.mpr groupName, pairs.map (·.1), ?_, ?_⟩
    · rw [ruleIds_eq_ok, List.map_map]
      exact ruleNames
    · rw [← batches]
      exact List.zip_of_prod rfl rfl

/-- A planner with one more service. -/
def grown (p : Planner) (r : Route) (group : LogicalId) (pairs : List (LogicalId × List String)) :
    Planner :=
  { p with
    priorities := ⟨.ofNat (p.rules.length + 1 + pairs.length)⟩
    targetGroups := p.targetGroups ++ [p.targetGroup r group]
    rules := p.rules ++ numbered r.service group (p.rules.length + 1) pairs
    claimed := p.claimed ++ r.expandedPatterns.map fun pattern => (r.service, pattern) }

theorem Prepared.length_pairs {p : Planner} {r : Route} {group : LogicalId}
    {pairs : List (LogicalId × List String)} (prepared : p.Prepared r group pairs) :
    pairs.length = r.ruleCount := by
  have lengths := congrArg List.length prepared.ruleNames
  simpa using lengths

/-- The rules of a route that is accepted use up fewer priorities than there are. -/
theorem Prepared.small {p : Planner} (counted : p.Counted) {r : Route} {group : LogicalId}
    {pairs : List (LogicalId × List String)} (prepared : p.Prepared r group pairs) :
    p.priorities.upcoming.toNat + pairs.length ≤ 50001 := by
  have limit : maxRules = 100 := rfl
  have room := prepared.room
  rw [counted.upcoming, prepared.length_pairs]
  omega

theorem counted_grown {p : Planner} {r : Route} {group : LogicalId}
    {pairs : List (LogicalId × List String)} (prepared : p.Prepared r group pairs) :
    (p.grown r group pairs).Counted := by
  have limit : maxRules = 100 := rfl
  have room := prepared.room
  have length := prepared.length_pairs
  have total : (p.grown r group pairs).rules.length = p.rules.length + pairs.length := by
    simp only [grown, List.length_append, length_numbered]
  refine ⟨by omega, ?_⟩
  rw [total]
  simp only [grown]
  rw [UInt32.toNat_ofNat']
  omega

/-- A registration is refused and changes nothing, or accepted and adds what the route brings. -/
theorem register_cases {p : Planner} (counted : p.Counted) (r : Route) :
    (∃ e, p.prepare r = .error e ∧ p.register r = (.error e, p)) ∨
    ∃ group pairs, p.Prepared r group pairs ∧
      p.register r = (.ok ⟨r.service, group, r.port⟩, p.grown r group pairs) := by
  unfold register
  cases outcome : p.prepare r with
  | error e => exact .inl ⟨e, rfl, rfl⟩
  | ok result =>
    obtain ⟨group, pairs⟩ := result
    have prepared := (prepare_eq_ok_iff counted r group pairs).mp outcome
    refine .inr ⟨group, pairs, prepared, ?_⟩
    simp only
    rw [appendRules_eq r.service group pairs p (prepared.small counted), counted.upcoming]
    rfl

/-- What a registration asks of a route besides patterns that nobody has claimed. -/
structure PassesOtherChecks (p : Planner) (r : Route) : Prop where
  valid : r.validate = .ok ()
  new : p.Unregistered r
  room : p.rules.length + r.ruleCount ≤ maxRules
  groupName : Ident.isName (r.service.text ++ p.suffix) = true
  ruleNames : ∀ i < r.ruleCount, Ident.isName (ruleName r.service i) = true

private theorem exists_prepared (p : Planner) (r : Route) :
    (∃ group pairs, p.Prepared r group pairs) ↔ p.PassesOtherChecks r ∧ p.Unshadowed r := by
  constructor
  · rintro ⟨group, pairs, prepared⟩
    refine ⟨⟨prepared.valid, prepared.new, prepared.room, ?_, ?_⟩, prepared.clear⟩
    · rw [← prepared.groupName]
      exact group.named
    · intro i inside
      have listed : ruleName r.service i ∈ pairs.map (·.1.text) := by
        rw [prepared.ruleNames]
        exact List.mem_map_of_mem (List.mem_range.mpr inside)
      obtain ⟨pair, _, same⟩ := List.mem_map.mp listed
      rw [← same]
      exact pair.1.named
  · rintro ⟨⟨valid, new, room, groupName, ruleNames⟩, clear⟩
    let ids : List LogicalId := (List.range r.ruleCount).pmap
      (fun i named => ⟨ruleName r.service i, named⟩) fun i inside => ruleNames i (List.mem_range.mp inside)
    have sameLength : ids.length = (Batch.batches r.expandedPatterns).length := by
      rw [Route.length_batches, List.length_pmap, List.length_range]
    refine ⟨⟨_, groupName⟩, ids.zip (Batch.batches r.expandedPatterns), valid, new, clear, room, rfl,
      ?_, ?_⟩
    · rw [names_zip sameLength, List.map_pmap, List.pmap_eq_map]
    · rw [List.map_snd_zip (Nat.le_of_eq sameLength.symm)]

/-- A registration succeeds exactly if the route passes all checks. -/
theorem register_accepts_iff {p : Planner} (counted : p.Counted) (r : Route) :
    (∃ binding, (p.register r).1 = .ok binding) ↔ p.PassesOtherChecks r ∧ p.Unshadowed r := by
  rw [← exists_prepared]
  rcases register_cases counted r with ⟨e, failed, outcome⟩ | ⟨group, pairs, prepared, outcome⟩
  · rw [outcome]
    constructor
    · rintro ⟨_, impossible⟩
      cases impossible
    · rintro ⟨group, pairs, prepared⟩
      rw [(prepare_eq_ok_iff counted r group pairs).mpr prepared] at failed
      cases failed
  · rw [outcome]
    exact ⟨fun _ => ⟨group, pairs, prepared⟩, fun _ => ⟨_, rfl⟩⟩

end Planner

end Perimeter
