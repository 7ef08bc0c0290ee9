import Perimeter.Proofs.Listener.Routing

/-!
Overlap and liveness. A pattern is live while some path is left to it by all earlier services. For
routes without wildcards in their paths, a registration that is sound otherwise is accepted if and
only if all its patterns are live: comparing patterns one by one loses nothing, since a path can be
found that escapes any number of patterns at once (`exists_escape`).
-/

namespace Perimeter

/-- No path of the route holds a wildcard. -/
def Route.WildcardFree (r : Route) : Prop := ∀ path ∈ r.paths, Pattern.Plain path.toList

instance (r : Route) : Decidable r.WildcardFree :=
  inferInstanceAs (Decidable (∀ path ∈ r.paths, '*' ∉ path.toList ∧ '?' ∉ path.toList))

namespace Pattern

/-- The patterns of routes without wildcards: a text, or a text that ends in a slash with a star
after it. -/
def Simple (pattern : String) : Prop :=
  Plain pattern.toList ∨
    ∃ stem, pattern.toList = stem ++ ['*'] ∧ Plain stem ∧ stem.getLast? = some '/'

theorem simple_of_mem_expandedPatterns {r : Route} (plain : r.WildcardFree) {pattern : String}
    (member : pattern ∈ r.expandedPatterns) : Simple pattern := by
  rcases List.mem_append.mp member with path | below
  · exact .inl (plain pattern path)
  · obtain ⟨path, listed, rfl⟩ := List.mem_map.mp below
    exact .inr ⟨folder path.toList, below_toList path, plain_folder (plain path listed),
      folder_getLast? path.toList⟩

private theorem exists_longer (texts : List String) : ∃ n, ∀ text ∈ texts, text.toList.length < n := by
  induction texts with
  | nil => exact ⟨0, by simp⟩
  | cons text texts ih =>
    obtain ⟨n, longer⟩ := ih
    refine ⟨max n (text.toList.length + 1), ?_⟩
    intro other member
    rcases List.mem_cons.mp member with rfl | later
    · omega
    · have bound := longer other later
      omega

/-- A stem that ends in a slash starts a text of letters behind another stem only if it starts that
stem already. -/
private theorem prefix_of_prefix_letters {stem other : List Char} {n : Nat}
    (slash : stem.getLast? = some '/') (starts : stem <+: other ++ List.replicate n 'a') :
    stem <+: other := by
  by_cases short : stem.length ≤ other.length
  · exact List.prefix_of_prefix_length_le starts (List.prefix_append ..) short
  · obtain ⟨more, rfl⟩ := List.prefix_of_prefix_length_le (List.prefix_append other _) starts
      (by omega)
    have letters := (List.prefix_append_right_inj other).mp starts
    rw [List.getLast?_append] at slash
    cases last : more.getLast? with
    | none =>
      rw [List.getLast?_eq_none_iff.mp last]
      simp
    | some c =>
      have letter := List.eq_of_mem_replicate (letters.subset (List.mem_of_getLast? last))
      rw [last, letter] at slash
      cases slash

/-- Whatever simple patterns do not cover a simple pattern one by one, they do not exhaust it
together either. -/
theorem exists_escape {claimed : List String} (simple : ∀ earlier ∈ claimed, Simple earlier)
    {pattern : String} (shape : Simple pattern)
    (uncovered : ∀ earlier ∈ claimed, covers earlier pattern = false) :
    ∃ path : String, Matches pattern.toList path.toList ∧
      ∀ earlier ∈ claimed, ¬ Matches earlier.toList path.toList := by
  have notCovered : ∀ earlier ∈ claimed, ¬ (earlier = pattern ∨
      ∃ stem, earlier.toList = stem ++ ['*'] ∧ stem <+: pattern.toList) := by
    intro earlier member covered
    have yes := (covers_iff earlier pattern).mpr covered
    rw [uncovered earlier member] at yes
    cases yes
  rcases shape with plain | ⟨stem, ends, plain, _⟩
  · -- A text is its own witness.
    refine ⟨pattern, (matches_plain plain _).mpr rfl, ?_⟩
    intro earlier member found
    apply notCovered earlier member
    rcases simple earlier member with plain' | ⟨stem, ends, plain', _⟩
    · exact .inl (String.toList_injective ((matches_plain plain' _).mp found).symm)
    · rw [ends] at found
      exact .inr ⟨stem, ends, (matches_stem plain' _).mp found⟩
  · -- Behind the stem stand more letters than any earlier pattern has, and no slash.
    obtain ⟨n, longer⟩ := exists_longer claimed
    refine ⟨String.ofList (stem ++ List.replicate n 'a'), ?_, ?_⟩
    · rw [ends, String.toList_ofList, matches_stem plain]
      exact List.prefix_append ..
    · intro earlier member found
      rw [String.toList_ofList] at found
      rcases simple earlier member with plain' | ⟨stem', ends', plain', slash⟩
      · have same := (matches_plain plain' _).mp found
        have bound := longer earlier member
        rw [← same, List.length_append, List.length_replicate] at bound
        omega
      · rw [ends', matches_stem plain'] at found
        apply notCovered earlier member
        refine .inr ⟨stem', ends', ?_⟩
        rw [ends]
        exact (prefix_of_prefix_letters slash found).trans (List.prefix_append ..)

end Pattern

namespace Planner

/-- Some path is matched by the pattern and by no pattern of the services. -/
def Live (services : List Service) (pattern : String) : Prop :=
  ∃ path : String, Pattern.Matches pattern.toList path.toList ∧ ∀ s ∈ services, ¬ s.1.Serves path

/-- All patterns of services, in order. -/
def patterns (services : List Service) : List String := services.flatMap (·.1.expandedPatterns)

private theorem not_serves_iff (services : List Service) (path : String) :
    (∀ s ∈ services, ¬ s.1.Serves path) ↔
      ∀ earlier ∈ patterns services, ¬ Pattern.Matches earlier.toList path.toList := by
  constructor
  · intro none earlier member found
    obtain ⟨s, accepted, listed⟩ := List.mem_flatMap.mp member
    exact none s accepted ⟨earlier, listed, found⟩
  · rintro none s accepted ⟨earlier, listed, found⟩
    exact none earlier (List.mem_flatMap.mpr ⟨s, accepted, listed⟩) found

/-- A claim is a pattern of an accepted service, together with that service's name. -/
theorem Records.mem_claimed {p : Planner} {services : List Service} (records : p.Records services)
    (claim : ServiceId × String) :
    claim ∈ p.claimed ↔ ∃ s ∈ services, s.1.service = claim.1 ∧ claim.2 ∈ s.1.expandedPatterns := by
  rw [records.claimed, List.mem_flatMap]
  refine exists_congr fun s => and_congr_right fun _ => ?_
  rw [claims, List.mem_map]
  constructor
  · rintro ⟨pattern, listed, rfl⟩
    exact ⟨rfl, listed⟩
  · rintro ⟨owner, listed⟩
    exact ⟨claim.2, listed, Prod.ext owner rfl⟩

/-- An unregistered service differs from all accepted ones. -/
theorem Records.service_ne {p : Planner} {services : List Service} (records : p.Records services)
    {r : Route} (new : p.Unregistered r) {s : Service} (accepted : s ∈ services) :
    s.1.service ≠ r.service := by
  refine new (p.targetGroup s.1 s.2.targetGroup) ?_
  rw [records.groups]
  exact List.mem_map_of_mem accepted

theorem Records.unshadowed_iff {p : Planner} {services : List Service}
    (records : p.Records services) {r : Route} (new : p.Unregistered r) :
    p.Unshadowed r ↔ ∀ pattern ∈ r.expandedPatterns, ∀ earlier ∈ patterns services,
      Pattern.covers earlier pattern = false := by
  refine forall₂_congr fun pattern _ => ?_
  constructor
  · intro clear earlier member
    obtain ⟨s, accepted, listed⟩ := List.mem_flatMap.mp member
    exact clear (s.1.service, earlier) ((records.mem_claimed _).mpr ⟨s, accepted, rfl, listed⟩)
      (records.service_ne new accepted)
  · intro clear claim member _
    obtain ⟨s, accepted, _, listed⟩ := (records.mem_claimed claim).mp member
    exact clear claim.2 (List.mem_flatMap.mpr ⟨s, accepted, listed⟩)

/-! ### Runs without wildcards -/

/-- A pattern is live as soon as no claim covers it, and then only. -/
private theorem live_iff {services : List Service} (plain : ∀ s ∈ services, s.1.WildcardFree)
    {pattern : String} (shape : Pattern.Simple pattern) :
    Live services pattern ↔ ∀ earlier ∈ patterns services, Pattern.covers earlier pattern = false := by
  constructor
  · rintro ⟨path, found, free⟩ earlier member
    cases covered : Pattern.covers earlier pattern with
    | false => rfl
    | true =>
      have none := (not_serves_iff services path).mp free earlier member
      exact absurd (Pattern.matches_of_covers covered found) none
  · intro uncovered
    have simple : ∀ earlier ∈ patterns services, Pattern.Simple earlier := by
      intro earlier member
      obtain ⟨s, accepted, listed⟩ := List.mem_flatMap.mp member
      exact Pattern.simple_of_mem_expandedPatterns (plain s accepted) listed
    obtain ⟨path, found, free⟩ := Pattern.exists_escape simple shape uncovered
    exact ⟨path, found, (not_serves_iff services path).mpr free⟩

private theorem Records.accepts_iff_live {p : Planner} {services : List Service}
    (records : p.Records services) (plain : ∀ s ∈ services, s.1.WildcardFree) {r : Route}
    (plainRoute : r.WildcardFree) (passes : p.PassesOtherChecks r) :
    (∃ binding, (p.register r).1 = .ok binding) ↔
      ∀ pattern ∈ r.expandedPatterns, Live services pattern := by
  have clear : p.Unshadowed r ↔ ∀ pattern ∈ r.expandedPatterns, Live services pattern := by
    rw [records.unshadowed_iff passes.new]
    refine forall₂_congr fun pattern member => ?_
    exact (live_iff plain (Pattern.simple_of_mem_expandedPatterns plainRoute member)).symm
  rw [register_accepts_iff records.counted, ← clear]
  exact and_iff_right passes

/-- Every pattern of a service has a path for which that service comes first. -/
private theorem exists_first (listener : LogicalId) (profile : HealthProfile) (suffix : String)
    {routes : List Route} (plain : ∀ r ∈ routes, r.WildcardFree) :
    ∀ s ∈ (empty listener profile suffix).accepted routes, ∀ pattern ∈ s.1.expandedPatterns,
      ∃ path : String, Pattern.Matches pattern.toList path.toList ∧
        ((empty listener profile suffix).accepted routes).find? (fun t => t.1.Serves path) = some s := by
  -- The last attempt decides: an accepted route adds one service behind all earlier ones.
  induction routes using List.reverseRecOn with
  | nil =>
    intro s member
    cases member
  | append_singleton before r ih =>
    have records := records_fresh listener profile suffix before
    have earlier : ∀ r ∈ before, r.WildcardFree := fun r member =>
      plain r (List.mem_append_left _ member)
    rw [accepted_append, accepted]
    rcases register_cases records.counted r with ⟨e, _, outcome⟩ | ⟨group, pairs, prepared, outcome⟩
    · rw [outcome]
      simp only [accepted, List.append_nil]
      exact ih earlier
    · rw [outcome]
      simp only [accepted]
      intro s member pattern listed
      rcases List.mem_append.mp member with old | new
      · obtain ⟨path, found, first⟩ := ih earlier s old pattern listed
        refine ⟨path, found, ?_⟩
        rw [List.find?_append, first]
        rfl
      · rw [List.mem_singleton] at new
        subst new
        have shape := Pattern.simple_of_mem_expandedPatterns
          (plain r (List.mem_append_right _ (List.mem_singleton_self r))) listed
        have uncovered := (records.unshadowed_iff prepared.new).mp prepared.clear pattern listed
        obtain ⟨path, found, free⟩ := (live_iff
          (fun s accepted => earlier s.1 (mem_of_mem_accepted accepted)) shape).mpr uncovered
        refine ⟨path, found, ?_⟩
        have none := List.find?_eq_none.mpr fun s member serves =>
          free s member (of_decide_eq_true serves)
        have serves : r.Serves path := ⟨pattern, listed, found⟩
        rw [List.find?_append, none, Option.none_or,
          List.find?_cons_of_pos (by exact decide_eq_true serves)]

/-- What a refusal for overlap says is true: the pattern is one of the route's, an earlier service
covers it, and whatever it matches is routed already. -/
private theorem Records.shadowed {p : Planner} {services : List Service}
    (records : p.Records services) {r : Route} {pattern earlier : String} {owner : ServiceId}
    (refused : p.refusal? r = some (.shadowed pattern earlier owner)) :
    pattern ∈ r.expandedPatterns ∧
    (∃ s ∈ services, s.1.service = owner ∧ earlier ∈ s.1.expandedPatterns) ∧
    ∀ path : String, Pattern.Matches pattern.toList path.toList →
      ∃ s ∈ services, s.1.service ≠ r.service ∧ p.destination? path = some s.2.targetGroup := by
  unfold refusal? at refused
  by_cases registered : (p.targetGroups.any fun group => group.service == r.service) = true
  · rw [if_pos registered] at refused
    cases refused
  · rw [if_neg registered] at refused
    have new : p.Unregistered r := by simpa [Unregistered] using registered
    cases overlap : overlap? p.claimed r.service r.expandedPatterns with
    | none =>
      rw [overlap] at refused
      simp only at refused
      split at refused
      · cases refused
      · split at refused
        · cases refused
        · cases refused
    | some refusal =>
      rw [overlap] at refused
      cases refused
      obtain ⟨_, listed, claim, claimed, other, covered, same⟩ := overlap?_eq_some overlap
      cases same
      obtain ⟨s, accepted, owner, pattern'⟩ := (records.mem_claimed claim).mp claimed
      refine ⟨listed, ⟨s, accepted, owner, pattern'⟩, ?_⟩
      intro path found
      have serves : s.1.Serves path := ⟨claim.2, pattern', Pattern.matches_of_covers covered found⟩
      cases first : services.find? fun s => s.1.Serves path with
      | none => exact absurd (decide_eq_true serves) (List.find?_eq_none.mp first s accepted)
      | some t =>
        have member := List.mem_of_find?_eq_some first
        refine ⟨t, member, records.service_ne new member, ?_⟩
        rw [records.destination? path, first]
        rfl

/-- While no path holds a wildcard, the check for overlap is exact. A route that is sound otherwise
is accepted if and only if all its patterns are live; no pattern of an accepted service is ever
dead; and a refusal for overlap names a pattern of which every path is routed already. -/
theorem overlap_exact (listener : LogicalId) (profile : HealthProfile) (suffix : String)
    (routes : List Route) (plain : ∀ r ∈ routes, r.WildcardFree) :
    let p := (empty listener profile suffix).run routes
    let services := (empty listener profile suffix).accepted routes
    (∀ r : Route, r.WildcardFree → p.PassesOtherChecks r →
      ((∃ binding, (p.register r).1 = .ok binding) ↔
        ∀ pattern ∈ r.expandedPatterns, Live services pattern)) ∧
    (∀ s ∈ services, ∀ pattern ∈ s.1.expandedPatterns, ∃ path : String,
      Pattern.Matches pattern.toList path.toList ∧ p.destination? path = some s.2.targetGroup) ∧
    ∀ (r : Route) (pattern earlier : String) (owner : ServiceId), r.validate = .ok () →
      p.refusal? r = some (.shadowed pattern earlier owner) →
      (p.register r).1 = .error ((Refusal.shadowed pattern earlier owner).error listener r.service) ∧
      pattern ∈ r.expandedPatterns ∧
      (∃ s ∈ services, s.1.service = owner ∧ earlier ∈ s.1.expandedPatterns) ∧
      ∀ path : String, Pattern.Matches pattern.toList path.toList →
        ∃ s ∈ services, s.1.service ≠ r.service ∧ p.destination? path = some s.2.targetGroup := by
  intro p services
  have records : p.Records services := records_fresh listener profile suffix routes
  have plainServices : ∀ s ∈ services, s.1.WildcardFree := fun s accepted =>
    plain s.1 (mem_of_mem_accepted accepted)
  refine ⟨?_, ?_, ?_⟩
  · intro r plainRoute passes
    exact records.accepts_iff_live plainServices plainRoute passes
  · intro s accepted pattern listed
    obtain ⟨path, found, first⟩ := exists_first listener profile suffix plain s accepted pattern listed
    refine ⟨path, found, ?_⟩
    rw [records.destination? path, first]
    rfl
  · intro r pattern earlier owner valid refused
    refine ⟨?_, records.shadowed refused⟩
    have same : p.listener = listener := (given_run (counted_empty ..) routes).1
    have failed : p.prepare r =
        .error ((Refusal.shadowed pattern earlier owner).error p.listener r.service) := by
      rw [prepare, valid, refused]
      rfl
    rw [register, failed, same]

/-- A route with nothing left for it once the interface is registered. -/
private def dead : Route := ⟨.literal "Late", 5004, .http "/", ["/v1/x"]⟩

/-- The front end fits behind the services before it, and a path of the interface does not. -/
theorem overlap_exact_services :
    (∀ r ∈ [Route.api, Route.extension], r.WildcardFree) ∧
    (∀ pattern ∈ Route.web.expandedPatterns,
      Live ((empty (.literal "AlbListener") .direct).accepted [.api, .extension]) pattern) ∧
    (((empty (.literal "AlbListener") .direct).run [.api, .extension]).register dead).1 =
      .error (.constraint
        "path pattern '/v1/x' of service 'Late' is already matched by '/v1/*' of service 'Api'") := by
  have plain : ∀ r ∈ [Route.api, Route.extension], r.WildcardFree := by decide +kernel
  obtain ⟨accepts, _, refused⟩ := overlap_exact (.literal "AlbListener") .direct "TargetGroup"
    [.api, .extension] plain
  have passes : ((empty (.literal "AlbListener") .direct).run
      [.api, .extension]).PassesOtherChecks .web := by
    refine ⟨by decide +kernel, ?_, by decide +kernel, by decide +kernel, by decide +kernel⟩
    unfold Unregistered
    decide +kernel
  refine ⟨plain, (accepts .web (by decide +kernel) passes).mp ?_, ?_⟩
  · exact ⟨⟨.literal "Web", .literal "WebTargetGroup", 3000⟩, by decide +kernel⟩
  · exact (refused dead "/v1/x" "/v1/*" (.literal "Api") (by decide +kernel) (by decide +kernel)).1

end Planner

end Perimeter
