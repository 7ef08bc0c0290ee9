import Perimeter.Proofs.Listener.Registration

/-!
Runs of a planner: attempts to register routes one after another, some of which are refused. What
the planner holds after a run is told by the accepted services alone (`records_run`).
-/

namespace Perimeter.Planner

/-- An accepted route with the answer to its registration. -/
abbrev Service := Route × TargetBinding

/-- The planner after attempts to register routes in order. -/
def run (p : Planner) (routes : List Route) : Planner :=
  routes.foldl (fun p r => (p.register r).2) p

/-- The services that are accepted among attempts in order. -/
def accepted (p : Planner) : List Route → List Service
  | [] => []
  | r :: rs =>
    match p.register r with
    | (.ok binding, next) => (r, binding) :: next.accepted rs
    | (.error _, next) => next.accepted rs

theorem run_append (p : Planner) (before after : List Route) :
    p.run (before ++ after) = (p.run before).run after := List.foldl_append

theorem accepted_append (p : Planner) (before after : List Route) :
    p.accepted (before ++ after) = p.accepted before ++ (p.run before).accepted after := by
  induction before generalizing p with
  | nil => rfl
  | cons r rs ih =>
    have start : p.run (r :: rs) = (p.register r).2.run rs := rfl
    rw [List.cons_append, start, accepted, accepted]
    rcases p.register r with ⟨answer, next⟩
    cases answer with
    | ok binding => exact congrArg ((r, binding) :: ·) (ih next)
    | error e => exact ih next

theorem accepted_of_ok {p : Planner} {r : Route} {binding : TargetBinding}
    (ok : (p.register r).1 = .ok binding) (rs : List Route) :
    p.accepted (r :: rs) = (r, binding) :: (p.register r).2.accepted rs := by
  rw [accepted]
  rcases outcome : p.register r with ⟨answer, next⟩
  rw [outcome] at ok
  cases ok
  rfl

/-- Only attempted routes are accepted. -/
theorem mem_of_mem_accepted {p : Planner} {routes : List Route} {s : Service}
    (member : s ∈ p.accepted routes) : s.1 ∈ routes := by
  induction routes generalizing p with
  | nil => cases member
  | cons r rs ih =>
    rw [accepted] at member
    rcases outcome : p.register r with ⟨answer, next⟩
    rw [outcome] at member
    cases answer with
    | ok binding =>
      rcases List.mem_cons.mp member with rfl | later
      · exact List.mem_cons_self ..
      · exact List.mem_cons_of_mem _ (ih later)
    | error e => exact List.mem_cons_of_mem _ (ih member)

/-- The names of the rules of a service, in order. -/
def ruleNames (r : Route) : List String := (List.range r.ruleCount).map (ruleName r.service)

/-- The rules of a service without their priorities. -/
def block (s : Service) : List (String × ServiceId × List String × LogicalId) :=
  ((ruleNames s.1).zip (Batch.batches s.1.expandedPatterns)).map fun pair =>
    (pair.1, s.1.service, pair.2, s.2.targetGroup)

theorem length_ruleNames (r : Route) : (ruleNames r).length = r.ruleCount := by
  rw [ruleNames, List.length_map, List.length_range]

theorem names_block (s : Service) : (block s).map (·.1) = ruleNames s.1 := by
  rw [block, List.map_map]
  exact List.map_fst_zip (Nat.le_of_eq (by rw [length_ruleNames, Route.length_batches]))

theorem patterns_block (s : Service) :
    (block s).map (·.2.2.1) = Batch.batches s.1.expandedPatterns := by
  rw [block, List.map_map]
  exact List.map_snd_zip (Nat.le_of_eq (by rw [length_ruleNames, Route.length_batches]))

theorem group_of_mem_block {s : Service} {c : String × ServiceId × List String × LogicalId}
    (member : c ∈ block s) : c.2.2.2 = s.2.targetGroup := by
  obtain ⟨_, _, rfl⟩ := List.mem_map.mp member
  rfl

/-- The patterns that a service claims. -/
def claims (s : Service) : List (ServiceId × String) :=
  s.1.expandedPatterns.map fun pattern => (s.1.service, pattern)

/-- A planner holds what its accepted services bring, in their order, and nothing else. -/
structure Records (p : Planner) (services : List Service) : Prop where
  counted : p.Counted
  answers : ∀ s ∈ services, s.2.service = s.1.service ∧ s.2.port = s.1.port ∧
    s.2.targetGroup.text = s.1.service.text ++ p.suffix
  distinct : (services.map (·.1.service)).Nodup
  groups : p.targetGroups = services.map fun s => p.targetGroup s.1 s.2.targetGroup
  claimed : p.claimed = services.flatMap claims
  rules : p.rules.map content = services.flatMap block
  priorities : p.rules.map (·.priority.value.toNat) = List.range' 1 p.rules.length

theorem Records.exists_group {p : Planner} {services : List Service} (records : p.Records services)
    {rule : PlannedRule} (member : rule ∈ p.rules) :
    ∃ group ∈ p.targetGroups, group.id = rule.targetGroup := by
  have listed : content rule ∈ services.flatMap block := by
    rw [← records.rules]
    exact List.mem_map_of_mem member
  obtain ⟨s, accepted, inside⟩ := List.mem_flatMap.mp listed
  refine ⟨p.targetGroup s.1 s.2.targetGroup, ?_, (group_of_mem_block inside).symm⟩
  rw [records.groups]
  exact List.mem_map_of_mem accepted

theorem records_empty (listener : LogicalId) (profile : HealthProfile) (suffix : String) :
    (empty listener profile suffix).Records [] :=
  ⟨counted_empty .., by simp, by simp, rfl, rfl, rfl, rfl⟩

private theorem block_of_prepared {p : Planner} {r : Route} {group : LogicalId}
    {pairs : List (LogicalId × List String)} (prepared : p.Prepared r group pairs) (first : Nat) :
    (numbered r.service group first pairs).map content = block (r, ⟨r.service, group, r.port⟩) := by
  have zipped : pairs.map (fun pair => (pair.1.text, pair.2)) =
      (ruleNames r).zip (Batch.batches r.expandedPatterns) := by
    refine List.zip_of_prod ?_ ?_
    · rw [List.map_map]
      exact prepared.ruleNames
    · rw [List.map_map]
      exact prepared.batches
  rw [content_numbered, block, ← zipped, List.map_map]
  rfl

/-- What one accepted registration adds to the records. -/
theorem records_grown {p : Planner} {services : List Service} (records : p.Records services)
    {r : Route} {group : LogicalId} {pairs : List (LogicalId × List String)}
    (prepared : p.Prepared r group pairs) :
    (p.grown r group pairs).Records (services ++ [(r, ⟨r.service, group, r.port⟩)]) := by
  have counted := counted_grown prepared
  have total : (p.grown r group pairs).rules.length = p.rules.length + pairs.length := by
    simp only [grown, List.length_append, length_numbered]
  have few := counted.few
  have limit : maxRules = 100 := rfl
  refine ⟨counted, ?_, ?_, ?_, ?_, ?_, ?_⟩
  · intro s member
    rcases List.mem_append.mp member with earlier | last
    · exact records.answers s earlier
    · rw [List.mem_singleton.mp last]
      exact ⟨rfl, rfl, prepared.groupName⟩
  · rw [List.map_append, List.nodup_append]
    refine ⟨records.distinct, List.pairwise_singleton _ _, ?_⟩
    intro service listed _ last same
    rw [List.map_singleton, List.mem_singleton] at last
    obtain ⟨s, member, rfl⟩ := List.mem_map.mp listed
    have recorded : p.targetGroup s.1 s.2.targetGroup ∈ p.targetGroups := by
      rw [records.groups]
      exact List.mem_map_of_mem member
    exact prepared.new _ recorded (same.trans last)
  · simp only [grown, List.map_append, List.map_singleton]
    exact congrArg (· ++ _) records.groups
  · simp only [grown, List.flatMap_append, List.flatMap_singleton]
    exact congrArg (· ++ _) records.claimed
  · simp only [grown, List.map_append, List.flatMap_append, List.flatMap_singleton, records.rules,
      block_of_prepared prepared]
  · rw [total]
    simp only [grown, List.map_append]
    rw [records.priorities, priorities_numbered _ _ _ _ (by omega), Nat.add_comm p.rules.length 1,
      List.range'_append_1]

theorem records_run {p : Planner} {services : List Service} (records : p.Records services)
    (routes : List Route) : (p.run routes).Records (services ++ p.accepted routes) := by
  induction routes generalizing p services with
  | nil =>
    rw [accepted, List.append_nil]
    exact records
  | cons r rs ih =>
    have start : p.run (r :: rs) = (p.register r).2.run rs := rfl
    rw [start, accepted]
    rcases register_cases records.counted r with ⟨e, _, outcome⟩ | ⟨group, pairs, prepared, outcome⟩
    · rw [outcome]
      exact ih records
    · have next := ih (records_grown records prepared)
      rw [List.append_assoc] at next
      rw [outcome]
      exact next

/-- After any run of a fresh planner, it holds what the accepted services bring. -/
theorem records_fresh (listener : LogicalId) (profile : HealthProfile) (suffix : String)
    (routes : List Route) :
    ((empty listener profile suffix).run routes).Records
      ((empty listener profile suffix).accepted routes) :=
  records_run (records_empty listener profile suffix) routes

/-- After any run of a fresh planner, its allocator is one that was called once for each rule. -/
theorem priorities_fresh (listener : LogicalId) (profile : HealthProfile) (suffix : String)
    (routes : List Route) :
    let p := (empty listener profile suffix).run routes
    p.priorities = Priority.Allocator.initial.run p.rules.length :=
  (records_fresh listener profile suffix routes).counted.counts.eq_run

/-- A run changes nothing of what a planner is given at the start. -/
theorem given_run {p : Planner} (counted : p.Counted) (routes : List Route) :
    (p.run routes).listener = p.listener ∧ (p.run routes).profile = p.profile ∧
      (p.run routes).suffix = p.suffix := by
  induction routes generalizing p with
  | nil => exact ⟨rfl, rfl, rfl⟩
  | cons r rs ih =>
    have start : p.run (r :: rs) = (p.register r).2.run rs := rfl
    rw [start]
    rcases register_cases counted r with ⟨e, _, outcome⟩ | ⟨group, pairs, prepared, outcome⟩
    · rw [outcome]
      exact ih counted
    · rw [outcome]
      exact ih (counted_grown prepared)

/-! ### Runs without refusals -/

/-- Every route is accepted, one after another. -/
def AcceptsAll (p : Planner) (routes : List Route) : Prop :=
  ∀ before r after, routes = before ++ r :: after →
    ∃ binding, ((p.run before).register r).1 = .ok binding

/-- The first route that is not accepted fails with the given error. -/
def FirstRefusal (p : Planner) (routes : List Route) (e : Error) : Prop :=
  ∃ before r after, routes = before ++ r :: after ∧ p.AcceptsAll before ∧
    ((p.run before).register r).1 = .error e

theorem acceptsAll_nil (p : Planner) : p.AcceptsAll [] := by
  intro before r after split
  cases before with
  | nil => cases split
  | cons _ _ => cases split

theorem acceptsAll_cons (p : Planner) (r : Route) (rs : List Route) :
    p.AcceptsAll (r :: rs) ↔
      (∃ binding, (p.register r).1 = .ok binding) ∧ (p.register r).2.AcceptsAll rs := by
  constructor
  · intro all
    refine ⟨all [] r rs rfl, ?_⟩
    intro before r' after split
    exact all (r :: before) r' after (congrArg (r :: ·) split)
  · rintro ⟨first, rest⟩ before r' after split
    cases before with
    | nil =>
      cases split
      exact first
    | cons _ before =>
      cases split
      exact rest before r' after rfl

theorem acceptsAll_append (p : Planner) (before after : List Route) :
    p.AcceptsAll (before ++ after) ↔ p.AcceptsAll before ∧ (p.run before).AcceptsAll after := by
  induction before generalizing p with
  | nil => exact (and_iff_right (acceptsAll_nil p)).symm
  | cons r rs ih =>
    have start : p.run (r :: rs) = (p.register r).2.run rs := rfl
    rw [List.cons_append, acceptsAll_cons, acceptsAll_cons, ih, start, and_assoc]

theorem firstRefusal_nil (p : Planner) (e : Error) : ¬ p.FirstRefusal [] e := by
  rintro ⟨before, r, after, split, _⟩
  cases before with
  | nil => cases split
  | cons _ _ => cases split

theorem firstRefusal_cons (p : Planner) (r : Route) (rs : List Route) (e : Error) :
    p.FirstRefusal (r :: rs) e ↔ (p.register r).1 = .error e ∨
      (∃ binding, (p.register r).1 = .ok binding) ∧ (p.register r).2.FirstRefusal rs e := by
  constructor
  · rintro ⟨before, r', after, split, all, failed⟩
    cases before with
    | nil =>
      cases split
      exact .inl failed
    | cons _ before =>
      cases split
      obtain ⟨first, rest⟩ := (acceptsAll_cons p r before).mp all
      exact .inr ⟨first, before, r', after, rfl, rest, failed⟩
  · rintro (failed | ⟨first, before, r', after, rfl, rest, failed⟩)
    · exact ⟨[], r, rs, rfl, acceptsAll_nil p, failed⟩
    · exact ⟨r :: before, r', after, rfl, (acceptsAll_cons p r before).mpr ⟨first, rest⟩, failed⟩

/-- Registering routes all of which must be accepted is a run in which they are. -/
theorem registerAll_cases (p : Planner) (routes : List Route) :
    (p.AcceptsAll routes ∧ (∀ e, ¬ p.FirstRefusal routes e) ∧
      p.registerAll routes = .ok ((p.accepted routes).map (·.2), p.run routes)) ∨
    ∃ e, ¬ p.AcceptsAll routes ∧ p.FirstRefusal routes e ∧
      (∀ e', p.FirstRefusal routes e' → e' = e) ∧ p.registerAll routes = .error e := by
  induction routes generalizing p with
  | nil => exact .inl ⟨acceptsAll_nil p, firstRefusal_nil p, rfl⟩
  | cons r rs ih =>
    have start : p.run (r :: rs) = (p.register r).2.run rs := rfl
    simp only [acceptsAll_cons, firstRefusal_cons, registerAll, accepted, start]
    rcases p.register r with ⟨answer, next⟩
    cases answer with
    | error e =>
      refine .inr ⟨e, ?_, .inl rfl, ?_, rfl⟩
      · rintro ⟨⟨_, impossible⟩, _⟩
        cases impossible
      · rintro e' (same | ⟨⟨_, impossible⟩, _⟩)
        · cases same
          rfl
        · cases impossible
    | ok binding =>
      rcases ih next with ⟨all, none, outcome⟩ | ⟨e, some, refused, only, outcome⟩
      · refine .inl ⟨⟨⟨binding, rfl⟩, all⟩, ?_, ?_⟩
        · rintro e (impossible | ⟨_, later⟩)
          · cases impossible
          · exact none e later
        · simp only [outcome]
          rfl
      · refine .inr ⟨e, fun all => some all.2, .inr ⟨⟨binding, rfl⟩, refused⟩, ?_, ?_⟩
        · rintro e' (impossible | ⟨_, later⟩)
          · cases impossible
          · exact only e' later
        · simp only [outcome]
          rfl

theorem registerAll_eq_error_iff {p : Planner} {routes : List Route} {e : Error} :
    p.registerAll routes = .error e ↔ p.FirstRefusal routes e := by
  rcases p.registerAll_cases routes with ⟨_, none, ok⟩ | ⟨e', _, refused, only, failed⟩
  · rw [ok]
    constructor
    · intro impossible
      cases impossible
    · intro refused
      exact absurd refused (none e)
  · rw [failed]
    constructor
    · intro same
      cases same
      exact refused
    · intro other
      rw [only e other]

theorem acceptsAll_iff_isOk {p : Planner} {routes : List Route} :
    p.AcceptsAll routes ↔ (p.registerAll routes).isOk = true := by
  rcases p.registerAll_cases routes with ⟨all, _, ok⟩ | ⟨e, some, _, _, failed⟩
  · rw [ok]
    exact ⟨fun _ => rfl, fun _ => all⟩
  · rw [failed]
    constructor
    · intro all
      exact absurd all some
    · intro impossible
      cases impossible

theorem registerAll_eq_ok {p : Planner} {routes : List Route} (all : p.AcceptsAll routes) :
    p.registerAll routes = .ok ((p.accepted routes).map (·.2), p.run routes) := by
  rcases p.registerAll_cases routes with ⟨_, _, ok⟩ | ⟨_, some, _⟩
  · exact ok
  · exact absurd all some

instance (p : Planner) (routes : List Route) : Decidable (p.AcceptsAll routes) :=
  decidable_of_iff _ acceptsAll_iff_isOk.symm

/-- Where every route is accepted, the services are those of the routes. -/
theorem map_accepted {p : Planner} {routes : List Route} (all : p.AcceptsAll routes) :
    (p.accepted routes).map (·.1) = routes := by
  induction routes generalizing p with
  | nil => rfl
  | cons r rs ih =>
    obtain ⟨⟨binding, ok⟩, rest⟩ := (acceptsAll_cons p r rs).mp all
    rw [accepted_of_ok ok, List.map_cons, ih rest]

/-- Either every route is accepted or one is the first that is not. -/
theorem acceptsAll_iff {p : Planner} {routes : List Route} :
    p.AcceptsAll routes ↔ ∀ e, ¬ p.FirstRefusal routes e := by
  rcases p.registerAll_cases routes with ⟨all, none, _⟩ | ⟨e, some, refused, _⟩
  · exact ⟨fun _ => none, fun _ => all⟩
  · exact ⟨fun all => absurd all some, fun none => absurd refused (none e)⟩

end Perimeter.Planner
