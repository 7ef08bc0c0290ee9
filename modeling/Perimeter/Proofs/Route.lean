import Mathlib.Data.List.Nodup
import Perimeter.Proofs.Listener.Liveness

/-!
Routes by themselves. A route without wildcards serves each of its paths and what lies below it,
segment by segment (`serves_whole_segments`). The check of a route accepts the well-formed ones and
no others, which can be said of its paths as well as of its patterns (`validate_exact`).
-/

namespace Perimeter.Route

/-! ### What a route serves -/

theorem serves_iff (r : Route) (x : String) :
    r.Serves x ↔ ∃ p ∈ r.paths,
      Pattern.Matches p.toList x.toList ∨ Pattern.Matches (Pattern.below p).toList x.toList := by
  unfold Serves expandedPatterns
  constructor
  · rintro ⟨pattern, listed, found⟩
    rcases List.mem_append.mp listed with own | below
    · exact ⟨pattern, own, .inl found⟩
    · obtain ⟨p, own, rfl⟩ := List.mem_map.mp below
      exact ⟨p, own, .inr found⟩
  · rintro ⟨p, own, found | found⟩
    · exact ⟨p, List.mem_append_left _ own, found⟩
    · exact ⟨_, List.mem_append_right _ (List.mem_map_of_mem own), found⟩

theorem serves_iff_at_or_below {r : Route} (plain : r.WildcardFree) (x : String) :
    r.Serves x ↔ ∃ p ∈ r.paths, x = p ∨ Pattern.base p.toList ++ ['/'] <+: x.toList := by
  rw [serves_iff]
  refine exists_congr fun p => and_congr_right fun own => ?_
  rw [Pattern.matches_plain (plain p own), Pattern.matches_below (plain p own), String.toList_inj]

/-- A route without wildcards serves a path exactly if it is one of its own or starts with one of its
own, less a final slash, and a slash behind that. So what goes on after a path without a slash is not
served, nor is a path that lacks the final slash of the route's; and the root has every path. -/
theorem serves_whole_segments (r : Route) (plain : r.WildcardFree) :
    (∀ x : String, r.Serves x ↔
      ∃ p ∈ r.paths, x = p ∨ Pattern.base p.toList ++ ['/'] <+: x.toList) ∧
    (∀ (p : String) (c : Char) (rest : List Char), r.paths = [p] → p.toList.getLast? ≠ some '/' →
      c ≠ '/' → ¬ r.Serves (p ++ String.ofList (c :: rest))) ∧
    (∀ p : String, r.paths = [p ++ "/"] → ¬ r.Serves p) ∧
    ("/" ∈ r.paths → ∀ x : String, x.toList.head? = some '/' → r.Serves x) := by
  have single : ∀ p x : String, r.paths = [p] →
      (r.Serves x ↔ x = p ∨ Pattern.base p.toList ++ ['/'] <+: x.toList) := by
    intro p x only
    rw [serves_iff_at_or_below plain, only]
    simp
  refine ⟨serves_iff_at_or_below plain, ?_, ?_, ?_⟩
  · intro p c rest only unfinished other serves
    rcases (single p _ only).mp serves with same | starts
    · rw [← String.toList_inj] at same
      simp at same
    · rw [Pattern.base, if_neg unfinished, String.toList_append, List.prefix_append_right_inj,
        String.toList_ofList, List.cons_prefix_cons] at starts
      exact other starts.1.symm
  · intro p only serves
    rcases (single _ p only).mp serves with same | starts
    · rw [← String.toList_inj] at same
      simp at same
    · have slash : "/".toList = ['/'] := rfl
      rw [String.toList_append, slash, Pattern.base_append_slash] at starts
      have length := starts.length_le
      rw [List.length_append, List.length_singleton] at length
      omega
  · intro root x slash
    refine (serves_iff_at_or_below plain x).mpr ⟨"/", root, .inr ?_⟩
    obtain ⟨tail, whole⟩ := List.head?_eq_some_iff.mp slash
    rw [whole]
    exact List.prefix_append ['/'] tail

/-- A route of a path without a final slash and of one with it. -/
private def folders : Route := ⟨.literal "Folders", 8080, .http "/health", ["/api", "/a/"]⟩

/-- An interface ends with its last segment, a folder is not its name without the slash, and the front end
is left with all the rest. -/
theorem serves_whole_segments_folders :
    folders.WildcardFree ∧ folders.Serves "/api" ∧ folders.Serves "/api/v1" ∧ ¬ folders.Serves "/apix" ∧
      ¬ folders.Serves "/a" ∧ Route.web.WildcardFree ∧ Route.web.Serves "/apix" := by
  have plain : folders.WildcardFree := by decide +kernel
  have plainWeb : Route.web.WildcardFree := by decide +kernel
  have exact := (serves_whole_segments folders plain).1
  obtain ⟨_, _, _, everything⟩ := serves_whole_segments Route.web plainWeb
  refine ⟨plain, (exact _).mpr ?_, (exact _).mpr ?_, ?_, ?_, plainWeb, ?_⟩
  · exact ⟨"/api", List.mem_cons_self .., .inl rfl⟩
  · exact ⟨"/api", List.mem_cons_self .., .inr ⟨['v', '1'], by decide⟩⟩
  · exact mt (exact _).mp (by decide +kernel)
  · exact mt (exact _).mp (by decide +kernel)
  · exact everything (List.mem_singleton_self _) _ (by decide)

/-! ### Which routes are accepted -/

/-- A pattern that the load balancer takes. -/
structure Fits (pattern : String) : Prop where
  rooted : pattern.toList.head? = some '/'
  clean : ∀ c ∈ pattern.toList, Text.isBlank c = false
  short : pattern.utf8ByteSize ≤ maxPatternLength

/-- A route that is proper in itself. Its paths are told apart by more than a final slash, and none of
them is what another one stands for with all below it. -/
structure WellFormed (r : Route) : Prop where
  nonempty : r.paths ≠ []
  port : r.port ≠ 0
  health : r.health.path.toList.head? = some '/'
  rooted : ∀ p ∈ r.paths, p.toList.head? = some '/'
  clean : ∀ p ∈ r.paths, ∀ c ∈ p.toList, Text.isBlank c = false
  short : ∀ p ∈ r.paths, (Pattern.below p).utf8ByteSize ≤ 128
  apart : ∀ (i j : Nat) (hi : i < r.paths.length) (hj : j < r.paths.length), i ≠ j →
    Pattern.base r.paths[i].toList ≠ Pattern.base r.paths[j].toList ∧
      r.paths[i] ≠ Pattern.below r.paths[j]

theorem patternFault?_eq_none_iff (pattern : String) : patternFault? pattern = none ↔ Fits pattern := by
  have slash : startsWithSlash pattern = true ↔ pattern.toList.head? = some '/' := beq_iff_eq
  have blank : pattern.toList.any Text.isBlank = false ↔
      ∀ c ∈ pattern.toList, Text.isBlank c = false := by simp
  unfold patternFault?
  constructor
  · intro none
    split at none
    · cases none
    · rename_i formed
      split at none
      · cases none
      · rename_i short
        simp only [Bool.or_eq_true, Bool.not_eq_true', not_or, Bool.not_eq_false, Bool.not_eq_true] at formed
        exact ⟨slash.mp formed.1, blank.mp formed.2, Nat.le_of_not_lt short⟩
  · rintro ⟨rooted, clean, short⟩
    rw [slash.mpr rooted, blank.mpr clean, if_neg (by decide), if_neg (Nat.not_lt.mpr short)]

/-- Nothing is wrong with patterns exactly if all of them fit and none of them stands twice or has been
read before. -/
theorem patternsFault?_eq_none_iff (seen ps : List String) :
    patternsFault? seen ps = none ↔ (∀ p ∈ ps, Fits p) ∧ ps.Nodup ∧ ∀ p ∈ ps, p ∉ seen := by
  induction ps generalizing seen with
  | nil => simp [patternsFault?]
  | cons p ps ih =>
    rw [patternsFault?]
    cases fault : patternFault? p with
    | some _ =>
      have bad : ¬ Fits p := by
        rw [← patternFault?_eq_none_iff, fault]
        exact Option.some_ne_none _
      simp [bad]
    | none =>
      have fits := (patternFault?_eq_none_iff p).mp fault
      by_cases old : p ∈ seen
      · simp [old]
      · simp only [List.contains_eq_mem, old, decide_false, Bool.false_eq_true, if_false, ih,
          List.mem_cons, List.nodup_cons, forall_eq_or_imp, not_false_eq_true, fits, true_and, not_or]
        constructor
        · rintro ⟨all, distinct, new⟩
          exact ⟨all, ⟨fun member => (new p member).1 rfl, distinct⟩, fun q member => (new q member).2⟩
        · rintro ⟨all, ⟨single, distinct⟩, new⟩
          refine ⟨all, distinct, fun q member => ⟨?_, new q member⟩⟩
          rintro rfl
          exact single member

theorem validate_eq_ok_iff_patterns (r : Route) :
    r.validate = .ok () ↔ r.port ≠ 0 ∧ r.health.path.toList.head? = some '/' ∧
      r.expandedPatterns ≠ [] ∧ r.expandedPatterns.Nodup ∧ ∀ pattern ∈ r.expandedPatterns, Fits pattern := by
  have accepted : r.validate = .ok () ↔ r.fault? = none := by
    unfold validate
    cases r.fault? with
    | some _ => simp
    | none => simp
  have slash : startsWithSlash r.health.path = true ↔ r.health.path.toList.head? = some '/' := beq_iff_eq
  have filled : r.expandedPatterns ≠ [] ↔ r.paths.isEmpty = false := by
    simp [expandedPatterns]
  have patterns := patternsFault?_eq_none_iff [] r.expandedPatterns
  rw [accepted, fault?, filled, ← slash]
  cases r.paths.isEmpty with
  | true => simp
  | false =>
    by_cases port : r.port = 0
    · simp [port]
    · cases startsWithSlash r.health.path with
      | false => simp [port]
      | true => simp [port, patterns, and_comm]

theorem fits_both_iff (p : String) :
    Fits p ∧ Fits (Pattern.below p) ↔ p.toList.head? = some '/' ∧
      (∀ c ∈ p.toList, Text.isBlank c = false) ∧ (Pattern.below p).utf8ByteSize ≤ 128 := by
  constructor
  · rintro ⟨path, below⟩
    exact ⟨path.rooted, path.clean, below.short⟩
  · rintro ⟨rooted, clean, short⟩
    -- The longer pattern of the two decides, since it only adds what is never blank.
    have longer : ∃ more : String, Pattern.below p = p ++ more ∧
        more.toList.all (fun c => !Text.isBlank c) = true := by
      rw [Pattern.below]
      split
      · exact ⟨"*", rfl, by decide⟩
      · exact ⟨"/*", rfl, by decide⟩
    obtain ⟨more, whole, cleanMore⟩ := longer
    refine ⟨⟨rooted, clean, ?_⟩, ⟨?_, ?_, short⟩⟩
    · rw [whole, String.utf8ByteSize_append] at short
      exact Nat.le_trans (Nat.le_add_right ..) short
    · rw [whole, String.toList_append, List.head?_append, rooted]
      rfl
    · intro c member
      rw [whole, String.toList_append] at member
      rcases List.mem_append.mp member with own | new
      · exact clean c own
      · exact (Bool.not_eq_true' _).mp (List.all_eq_true.mp cleanMore c new)

theorem forall_fits_iff (r : Route) :
    (∀ pattern ∈ r.expandedPatterns, Fits pattern) ↔ ∀ p ∈ r.paths, Fits p ∧ Fits (Pattern.below p) := by
  simp only [expandedPatterns, List.forall_mem_append, List.forall_mem_map, ← forall₂_and]

theorem nodup_map_iff {α β : Type} (f : α → β) (xs : List α) :
    (xs.map f).Nodup ↔
      ∀ (i j : Nat) (hi : i < xs.length) (hj : j < xs.length), i ≠ j → f xs[i] ≠ f xs[j] := by
  rw [List.Nodup, List.pairwise_map, List.pairwise_iff_getElem]
  constructor
  · intro ordered i j hi hj other
    rcases Nat.lt_or_gt_of_ne other with less | greater
    · exact ordered i j hi hj less
    · exact (ordered j i hj hi greater).symm
  · intro apart i j hi hj less
    exact apart i j hi hj (Nat.ne_of_lt less)

theorem disjoint_below_iff (paths : List String) :
    paths.Disjoint (paths.map Pattern.below) ↔
      ∀ (i j : Nat) (hi : i < paths.length) (hj : j < paths.length), i ≠ j →
        paths[i] ≠ Pattern.below paths[j] := by
  constructor
  · intro disjoint i j hi hj _ same
    exact disjoint (List.getElem_mem hi) (same ▸ List.mem_map_of_mem (List.getElem_mem hj))
  · intro apart p own wildcard
    obtain ⟨q, other, rfl⟩ := List.mem_map.mp wildcard
    obtain ⟨i, hi, first⟩ := List.getElem_of_mem own
    obtain ⟨j, hj, rfl⟩ := List.getElem_of_mem other
    -- No path is its own wildcard, so the two places differ.
    by_cases same : i = j
    · subst same
      exact Pattern.below_ne_self _ first
    · exact apart i j hi hj same first

theorem nodup_expandedPatterns_iff (r : Route) :
    r.expandedPatterns.Nodup ↔
      ∀ (i j : Nat) (hi : i < r.paths.length) (hj : j < r.paths.length), i ≠ j →
        Pattern.base r.paths[i].toList ≠ Pattern.base r.paths[j].toList ∧
          r.paths[i] ≠ Pattern.below r.paths[j] := by
  have wildcards : (r.paths.map Pattern.below).Nodup ↔
      ∀ (i j : Nat) (hi : i < r.paths.length) (hj : j < r.paths.length), i ≠ j →
        Pattern.base r.paths[i].toList ≠ Pattern.base r.paths[j].toList := by
    simp only [nodup_map_iff, ne_eq, Pattern.below_inj]
  unfold expandedPatterns
  rw [List.nodup_append', disjoint_below_iff, wildcards]
  -- That the paths differ from each other follows, since equal paths have equal wildcards.
  constructor
  · rintro ⟨_, distinct, apart⟩ i j hi hj other
    exact ⟨distinct i j hi hj other, apart i j hi hj other⟩
  · intro apart
    have distinct := fun i j hi hj other => (apart i j hi hj other).1
    exact ⟨(wildcards.mpr distinct).of_map, distinct, fun i j hi hj other => (apart i j hi hj other).2⟩

/-- The check of a route accepts it exactly if it is well formed. Equivalently, its port and the path of
its health check are proper, and its patterns are some, each one of them fits, and none stands twice. -/
theorem validate_exact (r : Route) :
    (r.validate = .ok () ↔ r.WellFormed) ∧
    (r.validate = .ok () ↔ r.port ≠ 0 ∧ r.health.path.toList.head? = some '/' ∧
      r.expandedPatterns ≠ [] ∧ r.expandedPatterns.Nodup ∧
      ∀ pattern ∈ r.expandedPatterns, Fits pattern) := by
  have filled : r.expandedPatterns ≠ [] ↔ r.paths ≠ [] := by simp [expandedPatterns]
  refine ⟨?_, r.validate_eq_ok_iff_patterns⟩
  rw [validate_eq_ok_iff_patterns, filled, nodup_expandedPatterns_iff, forall_fits_iff]
  constructor
  · rintro ⟨port, health, nonempty, apart, fits⟩
    have parts := fun p own => (fits_both_iff p).mp (fits p own)
    exact ⟨nonempty, port, health, fun p own => (parts p own).1, fun p own => (parts p own).2.1,
      fun p own => (parts p own).2.2, apart⟩
  · rintro ⟨nonempty, port, health, rooted, clean, short, apart⟩
    refine ⟨port, health, nonempty, apart, fun p own => ?_⟩
    exact (fits_both_iff p).mpr ⟨rooted p own, clean p own, short p own⟩

end Perimeter.Route
