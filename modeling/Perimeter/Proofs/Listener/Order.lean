import Mathlib.Data.List.Nodup
import Perimeter.Proofs.Listener.Liveness

/-!
The order of registration. Patterns without wildcards in their paths overlap only where one of them
covers the other (`Pattern.covers_or_covers`), so two services that can change places have no path
in common. Two orders in which every route is accepted therefore lead to the same routing
(`Planner.accepted_orders_route_alike`).
-/

namespace Perimeter

namespace Pattern

theorem covers_or_covers {p q : String} (shape : Simple p) (other : Simple q) {path : List Char}
    (left : Matches p.toList path) (right : Matches q.toList path) :
    covers p q = true ∨ covers q p = true := by
  rw [covers_iff, covers_iff]
  rcases shape with plain | ⟨stem, ends, plain, _⟩
  · -- A text matches itself alone, so whatever matches it covers it.
    cases (matches_plain plain _).mp left
    rcases other with plain' | ⟨stem', ends', plain', _⟩
    · exact .inl (.inl (String.toList_injective ((matches_plain plain' _).mp right)))
    · rw [ends', matches_stem plain'] at right
      exact .inr (.inr ⟨stem', ends', right⟩)
  · rw [ends, matches_stem plain] at left
    rcases other with plain' | ⟨stem', ends', plain', _⟩
    · cases (matches_plain plain' _).mp right
      exact .inl (.inr ⟨stem, ends, left⟩)
    · -- Of two stems of one path, one starts the other.
      rw [ends', matches_stem plain'] at right
      rcases List.prefix_or_prefix_of_prefix left right with short | short
      · exact .inl (.inr ⟨stem, ends, ends' ▸ short.trans (List.prefix_append ..)⟩)
      · exact .inr (.inr ⟨stem', ends', ends ▸ short.trans (List.prefix_append ..)⟩)

theorem Simple.exists_matches {pattern : String} (shape : Simple pattern) :
    ∃ path : String, Matches pattern.toList path.toList := by
  obtain ⟨path, found, _⟩ := exists_escape (List.forall_mem_nil _) shape (List.forall_mem_nil _)
  exact ⟨path, found⟩

end Pattern

namespace Route

/-- No pattern of the earlier route covers one of the later route. -/
def Spares (earlier later : Route) : Prop :=
  ∀ pattern ∈ later.expandedPatterns, ∀ claim ∈ earlier.expandedPatterns,
    Pattern.covers claim pattern = false

/-- Two routes spare each other if and only if they have no path in common. -/
theorem spares_each_other_iff {r t : Route} (plain : r.WildcardFree) (other : t.WildcardFree) :
    r.Spares t ∧ t.Spares r ↔ ∀ path, ¬ (r.Serves path ∧ t.Serves path) := by
  constructor
  · rintro ⟨left, right⟩ path ⟨⟨p, listed, found⟩, ⟨q, listed', found'⟩⟩
    rcases Pattern.covers_or_covers (Pattern.simple_of_mem_expandedPatterns plain listed)
      (Pattern.simple_of_mem_expandedPatterns other listed') found found' with covered | covered
    · rw [left q listed' p listed] at covered
      cases covered
    · rw [right p listed q listed'] at covered
      cases covered
  · intro apart
    -- What a pattern covers has a path, and the pattern matches that path too.
    have spares : ∀ {a b : Route}, b.WildcardFree → (∀ path, ¬ (a.Serves path ∧ b.Serves path)) →
        a.Spares b := by
      intro a b plain apart q listed p listed'
      obtain ⟨path, found⟩ := (Pattern.simple_of_mem_expandedPatterns plain listed).exists_matches
      cases covered : Pattern.covers p q with
      | false => rfl
      | true =>
        exact absurd ⟨⟨p, listed', Pattern.matches_of_covers covered found⟩, ⟨q, listed, found⟩⟩
          (apart path)
    exact ⟨spares other apart, spares plain fun path both => apart path both.symm⟩

end Route

namespace Planner

/-! ### The order of accepted services -/

/-- Of two accepted services, the earlier one spares the later one. -/
theorem pairwise_spares (listener : LogicalId) (profile : HealthProfile) (suffix : String)
    (routes : List Route) :
    ((empty listener profile suffix).accepted routes).Pairwise fun s t => s.1.Spares t.1 := by
  induction routes using List.reverseRecOn with
  | nil => exact .nil
  | append_singleton before r ih =>
    have records := records_fresh listener profile suffix before
    rw [accepted_append, accepted]
    rcases register_cases records.counted r with ⟨e, _, outcome⟩ | ⟨group, pairs, prepared, outcome⟩
    · rw [outcome]
      simpa only [accepted, List.append_nil] using ih
    · rw [outcome]
      refine List.pairwise_append.mpr ⟨ih, List.pairwise_singleton _ _, ?_⟩
      intro s earlier _ last
      simp only [accepted, List.mem_singleton] at last
      subst last
      intro pattern listed claim claimed
      exact (records.unshadowed_iff prepared.new).mp prepared.clear pattern listed claim
        (List.mem_flatMap.mpr ⟨s, earlier, claimed⟩)

/-- The first service that serves a path spares all others that do. -/
private theorem spares_of_first {services : List Service}
    (sparing : services.Pairwise fun s t => s.1.Spares t.1) {path : String} {s t : Service}
    (first : services.find? (fun s => s.1.Serves path) = some s) (member : t ∈ services)
    (serves : t.1.Serves path) : t = s ∨ s.1.Spares t.1 := by
  obtain ⟨_, before, after, rfl, none⟩ := List.find?_eq_some_iff_append.mp first
  rcases List.mem_append.mp member with earlier | later
  · have no := none t earlier
    simp [serves] at no
  · rcases List.mem_cons.mp later with same | behind
    · exact .inl same
    · have rest := (List.pairwise_append.mp sparing).2.1
      exact .inr ((List.pairwise_cons.mp rest).1 t behind)

private theorem find?_eq_of_perm {services others : List Service} (same : services.Perm others)
    (plain : ∀ s ∈ services, s.1.WildcardFree)
    (sparing : services.Pairwise fun s t => s.1.Spares t.1)
    (sparing' : others.Pairwise fun s t => s.1.Spares t.1) (path : String) :
    services.find? (fun s => s.1.Serves path) = others.find? fun s => s.1.Serves path := by
  cases first : services.find? fun s => s.1.Serves path with
  | none =>
    rw [List.find?_eq_none] at first
    exact (List.find?_eq_none.mpr fun s member => first s (same.mem_iff.mpr member)).symm
  | some s =>
    have member := List.mem_of_find?_eq_some first
    have serves : s.1.Serves path := by simpa using List.find?_some first
    cases second : others.find? fun s => s.1.Serves path with
    | none =>
      exact absurd (decide_eq_true serves) (List.find?_eq_none.mp second s (same.mem_iff.mp member))
    | some t =>
      have member' := same.mem_iff.mpr (List.mem_of_find?_eq_some second)
      have serves' : t.1.Serves path := by simpa using List.find?_some second
      -- Each of the two comes first once, so they spare each other unless they are one.
      rcases spares_of_first sparing first member' serves' with equal | left
      · rw [equal]
      rcases spares_of_first sparing' second (same.mem_iff.mp member) serves with equal | right
      · rw [equal]
      have apart := (Route.spares_each_other_iff (plain s member) (plain t member')).mp ⟨left, right⟩
      exact absurd ⟨serves, serves'⟩ (apart path)

/-! ### Two runs -/

/-- A service gets the same answer from all planners with one suffix. -/
private theorem answer_unique {p q : Planner} {services others : List Service}
    (records : p.Records services) (records' : q.Records others) (suffix : p.suffix = q.suffix)
    {s t : Service} (member : s ∈ services) (member' : t ∈ others) (same : s.1 = t.1) : s = t := by
  obtain ⟨service, port, group⟩ := records.answers s member
  obtain ⟨service', port', group'⟩ := records'.answers t member'
  rw [← same] at service' port' group'
  have groups : s.2.targetGroup = t.2.targetGroup := Ident.ext (by rw [group, group', suffix])
  have parts : ∀ b : TargetBinding, b = ⟨b.service, b.targetGroup, b.port⟩ := fun _ => rfl
  refine Prod.ext same ?_
  rw [parts s.2, parts t.2, service, service', port, port', groups]

private theorem perm_accepted {fresh : Planner} {routes others : List Route}
    (records : (fresh.run routes).Records (fresh.accepted routes))
    (records' : (fresh.run others).Records (fresh.accepted others))
    (suffix : (fresh.run routes).suffix = (fresh.run others).suffix) (same : routes.Perm others)
    (all : fresh.AcceptsAll routes) (all' : fresh.AcceptsAll others) :
    (fresh.accepted routes).Perm (fresh.accepted others) := by
  have half : ∀ {xs ys : List Route}, fresh.AcceptsAll ys → xs ⊆ ys →
      (fresh.run xs).Records (fresh.accepted xs) → (fresh.run ys).Records (fresh.accepted ys) →
      (fresh.run xs).suffix = (fresh.run ys).suffix → fresh.accepted xs ⊆ fresh.accepted ys := by
    intro xs ys all inside left right suffix s member
    have attempted := inside (mem_of_mem_accepted member)
    rw [← map_accepted all] at attempted
    obtain ⟨t, member', equal⟩ := List.mem_map.mp attempted
    rwa [answer_unique left right suffix member member' equal.symm]
  refine (List.perm_ext_iff_of_nodup (List.Nodup.of_map _ records.distinct)
    (List.Nodup.of_map _ records'.distinct)).mpr fun s => ⟨fun member => ?_, fun member => ?_⟩
  · exact half all' same.subset records records' suffix member
  · exact half all same.symm.subset records' records suffix.symm member

/-- For a route that is accepted by itself, all that an earlier route can take from it are its
patterns and the room. -/
private theorem acceptsAll_pair (listener : LogicalId) (profile : HealthProfile) (suffix : String)
    {r t : Route} (differ : r.service ≠ t.service)
    (one : (empty listener profile suffix).AcceptsAll [r])
    (other : (empty listener profile suffix).AcceptsAll [t])
    (room : r.ruleCount + t.ruleCount ≤ maxRules) :
    (empty listener profile suffix).AcceptsAll [r, t] ↔ r.Spares t := by
  have start := records_empty listener profile suffix
  obtain ⟨first, _⟩ := (acceptsAll_cons ..).mp one
  obtain ⟨second, _⟩ := (acceptsAll_cons ..).mp other
  obtain ⟨passes, _⟩ := (register_accepts_iff start.counted t).mp second
  rw [acceptsAll_cons, and_iff_right first, acceptsAll_cons, and_iff_left (acceptsAll_nil _)]
  rcases register_cases start.counted r with ⟨e, _, outcome⟩ | ⟨group, pairs, prepared, outcome⟩
  · obtain ⟨_, impossible⟩ := first
    rw [outcome] at impossible
    cases impossible
  rw [outcome]
  have records := records_grown start prepared
  have new : ((empty listener profile suffix).grown r group pairs).Unregistered t := by
    intro g member
    rw [records.groups, List.nil_append, List.map_singleton, List.mem_singleton] at member
    rw [member]
    exact differ
  have filled : ((empty listener profile suffix).grown r group pairs).rules.length = r.ruleCount := by
    rw [← prepared.length_pairs]
    simp only [grown, empty, List.nil_append, length_numbered]
  rw [register_accepts_iff records.counted, records.unshadowed_iff new, and_iff_right]
  · simp only [patterns, List.nil_append, List.flatMap_singleton]
    rfl
  · exact ⟨passes.valid, new, by rw [filled]; exact room, passes.groupName, passes.ruleNames⟩

/-- If a fresh planner accepts the same routes in two orders, both give the same target groups, and
send every request to the same one. Two routes that are accepted one by one and fit together are
accepted in both orders if and only if no path is served by both. -/
theorem accepted_orders_route_alike (listener : LogicalId) (profile : HealthProfile)
    (suffix : String) :
    let fresh := empty listener profile suffix
    (∀ routes others : List Route, routes.Perm others → (∀ r ∈ routes, r.WildcardFree) →
      fresh.AcceptsAll routes → fresh.AcceptsAll others →
      (fresh.run routes).targetGroups.Perm (fresh.run others).targetGroups ∧
      ∀ path, (fresh.run routes).destination? path = (fresh.run others).destination? path) ∧
    ∀ r t : Route, r.WildcardFree → t.WildcardFree → r.service ≠ t.service →
      fresh.AcceptsAll [r] → fresh.AcceptsAll [t] → r.ruleCount + t.ruleCount ≤ maxRules →
      (fresh.AcceptsAll [r, t] ∧ fresh.AcceptsAll [t, r] ↔
        ∀ path, ¬ (r.Serves path ∧ t.Serves path)) := by
  intro fresh
  constructor
  · intro routes others same plain all all'
    have records : (fresh.run routes).Records (fresh.accepted routes) :=
      records_fresh listener profile suffix routes
    have records' : (fresh.run others).Records (fresh.accepted others) :=
      records_fresh listener profile suffix others
    obtain ⟨_, profiles, suffixes⟩ := given_run (counted_empty listener profile suffix) routes
    obtain ⟨_, profiles', suffixes'⟩ := given_run (counted_empty listener profile suffix) others
    have services := perm_accepted records records' (suffixes.trans suffixes'.symm) same all all'
    constructor
    · have groups : ∀ s : Service, (fresh.run routes).targetGroup s.1 s.2.targetGroup =
          (fresh.run others).targetGroup s.1 s.2.targetGroup := by
        intro s
        rw [targetGroup, targetGroup, profiles, profiles']
      rw [records.groups, records'.groups, List.map_congr_left fun s _ => groups s]
      exact services.map _
    · intro path
      rw [records.destination? path, records'.destination? path, find?_eq_of_perm services
        (fun s member => plain s.1 (mem_of_mem_accepted member))
        (pairwise_spares listener profile suffix routes)
        (pairwise_spares listener profile suffix others)]
  · intro r t plain other differ one two room
    rw [acceptsAll_pair listener profile suffix differ one two room,
      acceptsAll_pair listener profile suffix differ.symm two one (by rwa [Nat.add_comm]),
      Route.spares_each_other_iff plain other]

/-- The interface and its extension can change places and have no path in common; the front end
must stay behind the interface. -/
theorem accepted_orders_route_alike_services :
    let fresh := empty (.literal "AlbListener") .direct
    (fresh.AcceptsAll [.api, .extension, .web] ∧ fresh.AcceptsAll [.extension, .api, .web] ∧
      ∀ path, (fresh.run [.api, .extension, .web]).destination? path =
        (fresh.run [.extension, .api, .web]).destination? path) ∧
    (∀ path, ¬ (Route.api.Serves path ∧ Route.extension.Serves path)) ∧
    ¬ (fresh.AcceptsAll [.api, .web] ∧ fresh.AcceptsAll [.web, .api]) := by
  obtain ⟨alike, exchange⟩ :=
    accepted_orders_route_alike (.literal "AlbListener") .direct "TargetGroup"
  have all : (empty (.literal "AlbListener") .direct).AcceptsAll [.api, .extension, .web] := by
    decide +kernel
  have all' : (empty (.literal "AlbListener") .direct).AcceptsAll [.extension, .api, .web] := by
    decide +kernel
  refine ⟨⟨all, all', (alike _ _ (.swap ..) (by decide +kernel) all all').2⟩, ?_, ?_⟩
  · exact (exchange .api .extension (by decide +kernel) (by decide +kernel) (by decide +kernel)
      (by decide +kernel) (by decide +kernel) (by decide +kernel)).mp
      ⟨by decide +kernel, by decide +kernel⟩
  · intro both
    exact (exchange .api .web (by decide +kernel) (by decide +kernel) (by decide +kernel)
      (by decide +kernel) (by decide +kernel) (by decide +kernel)).mp both "/v1/x"
      (by decide +kernel)

end Planner

end Perimeter
