import Mathlib.Data.List.Basic
import Perimeter.Route.Basic

/-!
What patterns match. A pattern without wildcards matches itself alone, and with one final `*` it
matches whatever its stem starts (`matches_plain`, `matches_stem`). A pattern that covers another
one matches at least as much, whatever wildcards the two hold, and for patterns with a star only at
their ends the converse holds (`covers_sound_and_exact`).
-/

namespace Perimeter.Pattern

/-! ### The matcher -/

theorem matchesList_iff (ps xs : List Char) : matchesList ps xs = true ↔ Matches ps xs := by
  induction ps, xs using matchesList.induct with
  | case1 => exact ⟨fun _ => .nil, fun _ => by rw [matchesList]⟩
  | case2 x xs =>
    constructor
    · intro impossible
      rw [matchesList] at impossible
      cases impossible
    · intro impossible
      cases impossible
  | case3 p ps ih =>
    rw [matchesList, Bool.and_eq_true, decide_eq_true_eq, ih]
    constructor
    · rintro ⟨rfl, rest⟩
      exact .starDone rest
    · intro h
      cases h with
      | starDone rest => exact ⟨rfl, rest⟩
  | case4 ps x xs ihDone ihMore =>
    rw [matchesList, if_pos rfl, Bool.or_eq_true, ihDone, ihMore]
    constructor
    · rintro (done | more)
      · exact .starDone done
      · exact .starMore more
    · intro h
      cases h with
      | starDone done => exact .inl done
      | starMore more => exact .inr more
      | same notStar => exact absurd rfl notStar
  | case5 p ps x xs notStar ih =>
    rw [matchesList, if_neg notStar, Bool.and_eq_true, Bool.or_eq_true, decide_eq_true_eq,
      decide_eq_true_eq, ih]
    constructor
    · rintro ⟨rfl | rfl, rest⟩
      · exact .anyOne rest
      · by_cases mark : p = '?'
        · subst mark
          exact .anyOne rest
        · exact .same notStar mark rest
    · intro h
      cases h with
      | starDone | starMore => exact absurd rfl notStar
      | anyOne rest => exact ⟨.inl rfl, rest⟩
      | same _ _ rest => exact ⟨.inr rfl, rest⟩

instance (ps xs : List Char) : Decidable (Matches ps xs) :=
  decidable_of_iff (matchesList ps xs = true) (matchesList_iff ps xs)

/-- A star matches every text. -/
theorem matches_star (xs : List Char) : Matches ['*'] xs := by
  induction xs with
  | nil => exact .starDone .nil
  | cons x xs ih => exact .starMore ih

/-- A pattern in two parts matches the texts in two parts that they match. -/
theorem matches_append (ps qs xs : List Char) :
    Matches (ps ++ qs) xs ↔ ∃ ys zs, xs = ys ++ zs ∧ Matches ps ys ∧ Matches qs zs := by
  constructor
  · intro h
    generalize whole : ps ++ qs = rs at h
    induction h generalizing ps with
    | nil =>
      obtain ⟨rfl, rfl⟩ := List.append_eq_nil_iff.mp whole
      exact ⟨[], [], rfl, .nil, .nil⟩
    | @starDone rs xs rest ih =>
      rcases List.append_eq_cons_iff.mp whole with ⟨rfl, rfl⟩ | ⟨ps, rfl, rfl⟩
      · exact ⟨[], xs, rfl, .nil, .starDone rest⟩
      · obtain ⟨ys, zs, rfl, left, right⟩ := ih ps rfl
        exact ⟨ys, zs, rfl, .starDone left, right⟩
    | @starMore rs xs x rest ih =>
      rcases List.append_eq_cons_iff.mp whole with ⟨rfl, rfl⟩ | ⟨ps, rfl, rfl⟩
      · exact ⟨[], x :: xs, rfl, .nil, .starMore rest⟩
      · obtain ⟨ys, zs, rfl, left, right⟩ := ih ('*' :: ps) rfl
        exact ⟨x :: ys, zs, rfl, .starMore left, right⟩
    | @anyOne rs xs x rest ih =>
      rcases List.append_eq_cons_iff.mp whole with ⟨rfl, rfl⟩ | ⟨ps, rfl, rfl⟩
      · exact ⟨[], x :: xs, rfl, .nil, .anyOne rest⟩
      · obtain ⟨ys, zs, rfl, left, right⟩ := ih ps rfl
        exact ⟨x :: ys, zs, rfl, .anyOne left, right⟩
    | @same rs xs c notStar notMark rest ih =>
      rcases List.append_eq_cons_iff.mp whole with ⟨rfl, rfl⟩ | ⟨ps, rfl, rfl⟩
      · exact ⟨[], c :: xs, rfl, .nil, .same notStar notMark rest⟩
      · obtain ⟨ys, zs, rfl, left, right⟩ := ih ps rfl
        exact ⟨c :: ys, zs, rfl, .same notStar notMark left, right⟩
  · rintro ⟨ys, zs, rfl, left, right⟩
    induction left with
    | nil => exact right
    | starDone _ ih => exact .starDone ih
    | starMore _ ih => exact .starMore ih
    | anyOne _ ih => exact .anyOne ih
    | same notStar notMark _ ih => exact .same notStar notMark ih

/-! ### Patterns without wildcards -/

/-- A text that a pattern takes as it stands. -/
def Plain (cs : List Char) : Prop := '*' ∉ cs ∧ '?' ∉ cs

theorem Plain.append {cs ds : List Char} (left : Plain cs) (right : Plain ds) : Plain (cs ++ ds) := by
  refine ⟨fun member => ?_, fun member => ?_⟩
  · rcases List.mem_append.mp member with h | h
    · exact left.1 h
    · exact right.1 h
  · rcases List.mem_append.mp member with h | h
    · exact left.2 h
    · exact right.2 h

theorem matches_plain {ps : List Char} (plain : Plain ps) (xs : List Char) :
    Matches ps xs ↔ xs = ps := by
  constructor
  · intro h
    induction h with
    | nil => rfl
    | starDone | starMore => exact absurd (List.mem_cons_self ..) plain.1
    | anyOne => exact absurd (List.mem_cons_self ..) plain.2
    | same _ _ _ ih =>
      rw [ih ⟨fun h => plain.1 (List.mem_cons_of_mem _ h), fun h => plain.2 (List.mem_cons_of_mem _ h)⟩]
  · rintro rfl
    induction xs with
    | nil => exact .nil
    | cons c cs ih =>
      have tail := ih ⟨fun h => plain.1 (List.mem_cons_of_mem _ h),
        fun h => plain.2 (List.mem_cons_of_mem _ h)⟩
      refine .same ?_ ?_ tail
      · rintro rfl
        exact plain.1 (List.mem_cons_self ..)
      · rintro rfl
        exact plain.2 (List.mem_cons_self ..)

theorem matches_stem {stem : List Char} (plain : Plain stem) (xs : List Char) :
    Matches (stem ++ ['*']) xs ↔ stem <+: xs := by
  rw [matches_append]
  constructor
  · rintro ⟨ys, zs, rfl, left, _⟩
    rw [(matches_plain plain ys).mp left]
    exact List.prefix_append stem zs
  · rintro ⟨zs, rfl⟩
    exact ⟨stem, zs, rfl, (matches_plain plain stem).mpr rfl, matches_star zs⟩

/-! ### Covering -/

private theorem stem?_eq_some (cs stem : List Char) : stem? cs = some stem ↔ cs = stem ++ ['*'] := by
  rw [stem?]
  constructor
  · intro h
    split at h
    · rename_i last
      cases h
      exact (List.dropLast_append_getLast? '*' last).symm
    · cases h
  · rintro rfl
    simp

theorem covers_iff (earlier later : String) :
    covers earlier later = true ↔
      earlier = later ∨ ∃ stem, earlier.toList = stem ++ ['*'] ∧ stem <+: later.toList := by
  rw [covers, Bool.or_eq_true, beq_iff_eq]
  refine or_congr_right ?_
  cases found : stem? earlier.toList with
  | none =>
    constructor
    · intro impossible
      cases impossible
    · rintro ⟨stem, ends, _⟩
      rw [(stem?_eq_some _ stem).mpr ends] at found
      cases found
  | some stem =>
    have ends := (stem?_eq_some _ stem).mp found
    constructor
    · intro starts
      exact ⟨stem, ends, List.isPrefixOf_iff_prefix.mp starts⟩
    · rintro ⟨stem', ends', starts⟩
      rw [ends, List.append_cancel_right_eq] at ends'
      subst ends'
      exact List.isPrefixOf_iff_prefix.mpr starts

/-- A pattern that covers another one matches every path that the other one matches. -/
theorem matches_of_covers {earlier later : String} (covered : covers earlier later = true)
    {xs : List Char} (h : Matches later.toList xs) : Matches earlier.toList xs := by
  rcases (covers_iff earlier later).mp covered with rfl | ⟨stem, ends, rest, starts⟩
  · exact h
  · rw [← starts, matches_append] at h
    obtain ⟨ys, zs, rfl, left, _⟩ := h
    rw [ends, matches_append]
    exact ⟨ys, zs, rfl, left, matches_star zs⟩

/-- A pattern whose only wildcard, if it has one, is a star at its end. -/
def Trailing (pattern : String) : Prop := '?' ∉ pattern.toList ∧ '*' ∉ pattern.toList.dropLast

instance (pattern : String) : Decidable (Trailing pattern) :=
  inferInstanceAs (Decidable ('?' ∉ pattern.toList ∧ '*' ∉ pattern.toList.dropLast))

theorem Trailing.cases {pattern : String} (trailing : Trailing pattern) :
    Plain pattern.toList ∨ ∃ stem, pattern.toList = stem ++ ['*'] ∧ Plain stem := by
  obtain ⟨noMark, noStar⟩ := trailing
  by_cases last : pattern.toList.getLast? = some '*'
  · have split := (List.dropLast_append_getLast? '*' last).symm
    exact .inr ⟨pattern.toList.dropLast, split, noStar, fun mark =>
      noMark (List.dropLast_subset _ mark)⟩
  · refine .inl ⟨fun star => ?_, noMark⟩
    obtain ⟨c, final⟩ : ∃ c, pattern.toList.getLast? = some c :=
      Option.ne_none_iff_exists'.mp fun none => by
        rw [List.getLast?_eq_none_iff.mp none] at star
        cases star
    rw [← List.dropLast_append_getLast? c final, List.mem_append, List.mem_singleton] at star
    rcases star with inner | rfl
    · exact noStar inner
    · exact last final

/-- Of two patterns with a star only at their ends, one that matches all that the other one matches
covers it. -/
private theorem covers_of_matches {earlier later : String} (trailing : Trailing earlier)
    (other : Trailing later)
    (more : ∀ path : String, Matches later.toList path.toList → Matches earlier.toList path.toList) :
    covers earlier later = true := by
  have carried : ∀ xs, Matches later.toList xs → Matches earlier.toList xs := by
    intro xs found
    have moved := more (String.ofList xs)
    rw [String.toList_ofList] at moved
    exact moved found
  rw [covers_iff]
  rcases other.cases with plain' | ⟨stem', ends', plain'⟩
  · -- The later pattern is a path that it matches.
    have found := carried _ ((matches_plain plain' _).mpr rfl)
    rcases trailing.cases with plain | ⟨stem, ends, plain⟩
    · exact .inl (String.toList_injective ((matches_plain plain _).mp found).symm)
    · rw [ends] at found
      exact .inr ⟨stem, ends, (matches_stem plain _).mp found⟩
  · rw [ends'] at carried
    have bare := carried stem' ((matches_stem plain' _).mpr (List.prefix_refl _))
    rcases trailing.cases with plain | ⟨stem, ends, plain⟩
    · -- Two paths of different lengths cannot both be the earlier pattern.
      have longer := carried (stem' ++ ['a']) ((matches_stem plain' _).mpr (List.prefix_append ..))
      have same := ((matches_plain plain _).mp bare).trans ((matches_plain plain _).mp longer).symm
      simp at same
    · rw [ends, matches_stem plain] at bare
      exact .inr ⟨stem, ends, ends' ▸ bare.trans (List.prefix_append ..)⟩

/-- Whatever wildcards two patterns hold, one that covers the other matches every path that the
other one matches. For patterns with a star only at their ends the converse holds too. -/
theorem covers_sound_and_exact :
    (∀ earlier later path : String, covers earlier later = true →
      Matches later.toList path.toList → Matches earlier.toList path.toList) ∧
    ∀ earlier later : String, Trailing earlier → Trailing later →
      (covers earlier later = true ↔
        ∀ path : String, Matches later.toList path.toList → Matches earlier.toList path.toList) := by
  refine ⟨fun earlier later path covered => matches_of_covers covered, ?_⟩
  intro earlier later trailing other
  exact ⟨fun covered path => matches_of_covers covered, covers_of_matches trailing other⟩

/-- An inner `?` is compared literally and still matches another character, and a path is not among
those below it. -/
theorem covers_sound_and_exact_below :
    covers "/a?*" "/a?/*/x" = true ∧ Matches "/a?*".toList "/ab/c/d/x".toList ∧
    Trailing "/api/*" ∧ Trailing "/api" ∧
    ¬ ∀ path : String, Matches "/api".toList path.toList → Matches "/api/*".toList path.toList := by
  obtain ⟨sound, converse⟩ := covers_sound_and_exact
  have covered : covers "/a?*" "/a?/*/x" = true := by decide
  have trailing : Trailing "/api/*" := by decide
  have other : Trailing "/api" := by decide
  refine ⟨covered, sound _ _ "/ab/c/d/x" covered (by decide +kernel), trailing, other, ?_⟩
  intro more
  exact absurd ((converse _ _ trailing other).mpr more) (by decide)

/-! ### What lies below a path -/

/-- What every path below a path starts with. -/
def folder (path : List Char) : List Char :=
  if path.getLast? = some '/' then path else path ++ ['/']

theorem below_toList (path : String) : (below path).toList = folder path.toList ++ ['*'] := by
  rw [below, folder]
  split
  · simp
  · simp

theorem folder_getLast? (path : List Char) : (folder path).getLast? = some '/' := by
  rw [folder]
  split
  · assumption
  · simp

theorem plain_folder {path : List Char} (plain : Plain path) : Plain (folder path) := by
  rw [folder]
  split
  · exact plain
  · exact plain.append ⟨by decide, by decide⟩

/-- A path without its final slash, of which at most one is taken off. -/
def base (path : List Char) : List Char :=
  if path.getLast? = some '/' then path.dropLast else path

theorem folder_eq (path : List Char) : folder path = base path ++ ['/'] := by
  rw [folder, base]
  split
  · rename_i slash
    exact (List.dropLast_append_getLast? '/' slash).symm
  · rfl

theorem base_append_slash (path : List Char) : base (path ++ ['/']) = path := by
  simp [base]

theorem matches_below {path : String} (plain : Plain path.toList) (xs : List Char) :
    Matches (below path).toList xs ↔ base path.toList ++ ['/'] <+: xs := by
  rw [below_toList, matches_stem (plain_folder plain), folder_eq]

theorem below_inj (path other : String) :
    below path = below other ↔ base path.toList = base other.toList := by
  rw [← String.toList_inj, below_toList, below_toList, List.append_cancel_right_eq, folder_eq, folder_eq,
    List.append_cancel_right_eq]

theorem below_ne_self (path : String) : path ≠ below path := by
  intro same
  have length := congrArg (fun s : String => s.toList.length) same
  simp only [below_toList, folder_eq, List.length_append, List.length_singleton, base] at length
  split at length
  · rw [List.length_dropLast] at length
    omega
  · omega

end Perimeter.Pattern
