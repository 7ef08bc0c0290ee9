import Mathlib.Data.List.Nodup
import Perimeter.Proofs.Listener.Routing

/-!
Removing a service. A planner that has accepted less than another one accepts whatever that one
accepts, with the same answers (`Planner.Within.acceptsAll`). So routes that are all accepted are
still all accepted without one of them, and only the requests to the removed service find another
place (`Planner.removal_keeps_routing`).
-/

namespace Perimeter.Planner

/-- Everything that a planner has used up or handed out is so in another one too. -/
structure Within (p q : Planner) : Prop where
  left : p.Counted
  right : q.Counted
  suffix : p.suffix = q.suffix
  rules : p.rules.length ≤ q.rules.length
  services : p.targetGroups.map (·.service) ⊆ q.targetGroups.map (·.service)
  claimed : p.claimed ⊆ q.claimed

variable {p q : Planner}

/-! ### One registration -/

private theorem append_subset_append {α : Type} {xs ys : List α} (inside : xs ⊆ ys) (zs : List α) :
    xs ++ zs ⊆ ys ++ zs :=
  List.append_subset.mpr ⟨fun _ member => List.mem_append_left _ (inside member),
    List.subset_append_right ..⟩

/-- Every reason to refuse a route grows with the planner. -/
theorem Within.passes (within : p.Within q) {r : Route} (passes : q.PassesOtherChecks r)
    (clear : q.Unshadowed r) : p.PassesOtherChecks r ∧ p.Unshadowed r := by
  obtain ⟨valid, new, room, groupName, ruleNames⟩ := passes
  have few := within.rules
  refine ⟨⟨valid, ?_, by omega, by rwa [within.suffix], ruleNames⟩, ?_⟩
  · intro group member same
    obtain ⟨other, listed, equal⟩ :=
      List.mem_map.mp (within.services (List.mem_map.mpr ⟨group, member, rfl⟩))
    exact new other listed (equal.trans same)
  · intro pattern listed claim member
    exact clear pattern listed claim (within.claimed member)

theorem Within.grown (within : p.Within q) {r : Route} {group : LogicalId}
    {pairs pairs' : List (LogicalId × List String)} (left : p.Prepared r group pairs)
    (right : q.Prepared r group pairs') :
    (p.grown r group pairs).Within (q.grown r group pairs') := by
  refine ⟨counted_grown left, counted_grown right, within.suffix, ?_, ?_,
    append_subset_append within.claimed _⟩
  · have few := within.rules
    simp only [Planner.grown, List.length_append, length_numbered, left.length_pairs,
      right.length_pairs]
    omega
  · simp only [Planner.grown, List.map_append]
    exact append_subset_append within.services _

/-- What the fuller planner accepts the other one accepts with the same answer. -/
theorem Within.register (within : p.Within q) {r : Route} {binding : TargetBinding}
    (ok : (q.register r).1 = .ok binding) :
    (p.register r).1 = .ok binding ∧ (p.register r).2.Within (q.register r).2 := by
  obtain ⟨passes, clear⟩ := (register_accepts_iff within.right r).mp ⟨binding, ok⟩
  have accepts := (register_accepts_iff within.left r).mpr (within.passes passes clear)
  rcases Planner.register_cases within.left r with ⟨e, _, outcome⟩ | ⟨group, pairs, left, outcome⟩
  · obtain ⟨_, impossible⟩ := accepts
    rw [outcome] at impossible
    cases impossible
  rcases Planner.register_cases within.right r with ⟨e, _, outcome'⟩ | ⟨group', pairs', right, outcome'⟩
  · rw [outcome'] at ok
    cases ok
  have same : group = group' := Ident.ext (by rw [left.groupName, right.groupName, within.suffix])
  subst same
  rw [outcome'] at ok
  cases ok
  rw [outcome, outcome']
  exact ⟨rfl, within.grown left right⟩

/-- A planner is within itself after a registration. -/
theorem within_register (counted : p.Counted) (r : Route) : p.Within (p.register r).2 := by
  rcases register_cases counted r with ⟨e, _, outcome⟩ | ⟨group, pairs, prepared, outcome⟩
  · rw [outcome]
    exact ⟨counted, counted, rfl, Nat.le_refl _, List.Subset.refl _, List.Subset.refl _⟩
  · rw [outcome]
    refine ⟨counted, counted_grown prepared, rfl, ?_, ?_, List.subset_append_left ..⟩
    · simp only [grown, List.length_append]
      omega
    · simp only [grown, List.map_append]
      exact List.subset_append_left ..

/-! ### Runs -/

theorem Within.acceptsAll (within : p.Within q) {routes : List Route} (all : q.AcceptsAll routes) :
    p.AcceptsAll routes ∧ p.accepted routes = q.accepted routes := by
  induction routes generalizing p q with
  | nil => exact ⟨acceptsAll_nil p, rfl⟩
  | cons r rs ih =>
    obtain ⟨⟨binding, ok⟩, rest⟩ := (acceptsAll_cons q r rs).mp all
    obtain ⟨ok', next⟩ := within.register ok
    obtain ⟨all', same⟩ := ih next rest
    refine ⟨(acceptsAll_cons p r rs).mpr ⟨⟨binding, ok'⟩, all'⟩, ?_⟩
    rw [accepted_of_ok ok, accepted_of_ok ok', same]

/-- Without one of the routes, all others are still accepted, and with the same answers. -/
theorem accepted_without {before after : List Route} {r : Route} (counted : (p.run before).Counted)
    (all : p.AcceptsAll (before ++ r :: after)) :
    p.AcceptsAll (before ++ after) ∧ ∃ binding later,
      p.accepted (before ++ r :: after) = p.accepted before ++ (r, binding) :: later ∧
      p.accepted (before ++ after) = p.accepted before ++ later := by
  obtain ⟨earlier, rest⟩ := (acceptsAll_append ..).mp all
  obtain ⟨⟨binding, ok⟩, behind⟩ := (acceptsAll_cons ..).mp rest
  obtain ⟨all', same⟩ := (within_register counted r).acceptsAll behind
  refine ⟨(acceptsAll_append ..).mpr ⟨earlier, all'⟩, binding, (p.run before).accepted after, ?_,
    accepted_append ..⟩
  rw [accepted_append, accepted_of_ok ok, same]

/-! ### What is left -/

section

variable {earlier later : List Service} {s : Service}

/-- No other accepted service has the name of the removed one. -/
theorem Records.service_ne_removed (records : p.Records (earlier ++ s :: later)) :
    ∀ t ∈ earlier ++ later, t.1.service ≠ s.1.service := by
  have distinct := records.distinct
  rw [List.map_append, List.map_cons, List.nodup_middle, ← List.map_append, List.nodup_cons] at distinct
  intro t member same
  exact distinct.1 (List.mem_map.mpr ⟨t, member, same⟩)

/-- The target groups are those of the other services. -/
theorem Records.groups_without (records : p.Records (earlier ++ s :: later))
    (records' : q.Records (earlier ++ later)) (profile : q.profile = p.profile) :
    q.targetGroups = p.targetGroups.filter fun group => group.service ≠ s.1.service := by
  have group : ∀ t : Service, q.targetGroup t.1 t.2.targetGroup = p.targetGroup t.1 t.2.targetGroup := by
    intro t
    rw [targetGroup, targetGroup, profile]
  have kept : ∀ {services : List Service}, services ⊆ earlier ++ later →
      services.filter ((fun group : TargetGroup => decide (group.service ≠ s.1.service)) ∘
        fun t => p.targetGroup t.1 t.2.targetGroup) = services := by
    intro services inside
    exact List.filter_eq_self.mpr fun t member =>
      decide_eq_true (records.service_ne_removed t (inside member))
  rw [records.groups, records'.groups, List.filter_map, List.map_congr_left fun t _ => group t,
    List.filter_append, List.filter_cons_of_neg (by simp [targetGroup]),
    kept (List.subset_append_left ..), kept (List.subset_append_right ..)]

/-- None of the target groups that are left has the name of the removed one. -/
theorem Records.group_ne_removed (records : p.Records (earlier ++ s :: later))
    (records' : q.Records (earlier ++ later)) (suffix : q.suffix = p.suffix) :
    ∀ group ∈ q.targetGroups, group.id ≠ s.2.targetGroup := by
  rw [records'.groups]
  rintro _ member same
  obtain ⟨t, accepted, rfl⟩ := List.mem_map.mp member
  have shared : t.2.targetGroup.text = s.2.targetGroup.text := congrArg Ident.text same
  have name := (records'.answers t accepted).2.2
  have name' := (records.answers s (by simp)).2.2
  rw [name, name', suffix, String.append_left_inj] at shared
  exact records.service_ne_removed t accepted (Ident.ext shared)

/-- The first service for a path is the same without a service that is not it. -/
private theorem find?_without {path : String}
    (other : ((earlier ++ s :: later).find? fun t => t.1.Serves path) ≠ some s) :
    ((earlier ++ later).find? fun t => t.1.Serves path) =
      (earlier ++ s :: later).find? fun t => t.1.Serves path := by
  rw [List.find?_append] at other
  rw [List.find?_append, List.find?_append]
  by_cases serves : s.1.Serves path
  · rw [List.find?_cons_of_pos (by exact decide_eq_true serves)] at other ⊢
    cases first : earlier.find? fun t => t.1.Serves path with
    | none =>
      rw [first] at other
      exact absurd rfl other
    | some t => rfl
  · rw [List.find?_cons_of_neg (by simpa using serves)]

/-- Requests that did not go to the removed service go where they went. -/
theorem Records.destination?_without (records : p.Records (earlier ++ s :: later))
    (records' : q.Records (earlier ++ later)) {path : String}
    (other : p.destination? path ≠ some s.2.targetGroup) :
    q.destination? path = p.destination? path := by
  rw [records.destination? path] at other ⊢
  rw [records'.destination? path, find?_without]
  intro same
  exact other (by rw [same]; rfl)

end

/-- If a fresh planner accepts all routes, it accepts them without any one of them, too. The target
groups of all other services stay, and a request that went to one of them or to none still goes
there. -/
theorem removal_keeps_routing (listener : LogicalId) (profile : HealthProfile) (suffix : String)
    (before after : List Route) (r : Route)
    (all : (empty listener profile suffix).AcceptsAll (before ++ r :: after)) :
    let fresh := empty listener profile suffix
    let full := fresh.run (before ++ r :: after)
    let rest := fresh.run (before ++ after)
    fresh.AcceptsAll (before ++ after) ∧
    rest.targetGroups = full.targetGroups.filter (fun group => group.service ≠ r.service) ∧
    ∃ removed ∈ full.targetGroups, removed.service = r.service ∧
      removed.id.text = r.service.text ++ suffix ∧
      (∀ group ∈ rest.targetGroups, group.id ≠ removed.id) ∧
      ∀ path, full.destination? path ≠ some removed.id →
        rest.destination? path = full.destination? path := by
  intro fresh full rest
  obtain ⟨all', binding, later, whole, part⟩ :=
    accepted_without (records_fresh listener profile suffix before).counted all
  have records : full.Records (fresh.accepted before ++ (r, binding) :: later) :=
    whole ▸ records_fresh listener profile suffix (before ++ r :: after)
  have records' : rest.Records (fresh.accepted before ++ later) :=
    part ▸ records_fresh listener profile suffix (before ++ after)
  obtain ⟨_, profiles, suffixes⟩ :=
    given_run (counted_empty listener profile suffix) (before ++ r :: after)
  obtain ⟨_, profiles', suffixes'⟩ :=
    given_run (counted_empty listener profile suffix) (before ++ after)
  have name : binding.targetGroup.text = r.service.text ++ full.suffix :=
    (records.answers (r, binding) (by simp)).2.2
  refine ⟨all', records.groups_without records' (profiles'.trans profiles.symm),
    full.targetGroup r binding.targetGroup, ?_, rfl, name.trans (by rw [suffixes]; rfl),
    records.group_ne_removed records' (suffixes'.trans suffixes.symm),
    fun path => records.destination?_without records'⟩
  rw [records.groups]
  exact List.mem_map.mpr ⟨(r, binding), by simp, rfl⟩

/-- The front end takes over what the extension had, and everything else stays where it was. -/
theorem removal_keeps_routing_services :
    let fresh := empty (.literal "AlbListener") .direct
    fresh.AcceptsAll [.api, .extension, .web] ∧ fresh.AcceptsAll [.api, .web] ∧
    (fresh.run [.api, .extension, .web]).destination? "/v1/x" = some (.literal "ApiTargetGroup") ∧
    (fresh.run [.api, .web]).destination? "/v1/x" = some (.literal "ApiTargetGroup") ∧
    (fresh.run [.api, .extension, .web]).destination? "/e/x" = some (.literal "ExtensionTargetGroup") ∧
    (fresh.run [.api, .web]).destination? "/e/x" = some (.literal "WebTargetGroup") := by
  intro fresh
  have all : fresh.AcceptsAll [.api, .extension, .web] := by decide +kernel
  have routed : (fresh.run [.api, .extension, .web]).destination? "/v1/x" =
      some (.literal "ApiTargetGroup") := by decide +kernel
  obtain ⟨all', _, removed, _, _, name, _, kept⟩ :=
    removal_keeps_routing (.literal "AlbListener") .direct "TargetGroup" [.api] [.web] .extension all
  have other : (fresh.run [.api, .extension, .web]).destination? "/v1/x" ≠ some removed.id := by
    rw [routed]
    intro same
    rw [← Option.some.inj same] at name
    exact absurd name (by decide)
  exact ⟨all, all', routed, (kept "/v1/x" other).trans routed, by decide +kernel, by decide +kernel⟩

end Perimeter.Planner
