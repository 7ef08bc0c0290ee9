import Perimeter.Proofs.Policy
import Perimeter.Settings.Validation

/-!
Settings. Accepted settings give a policy (`validate_eq_ok_iff`), and the policy admits what the
configured lists admit (`admits_policy`).
-/

namespace Perimeter.Settings

theorem validate_eq_ok_iff (s : Settings) :
    s.validate = .ok () ↔ s.broken = [] ∧ s.conflict? = none ∧ ∃ policy, s.policy = .ok policy := by
  unfold validate
  cases s.broken with
  | cons _ _ =>
    constructor
    · intro impossible
      cases impossible
    · rintro ⟨impossible, _⟩
      cases impossible
  | nil =>
    cases s.conflict? with
    | some _ =>
      constructor
      · intro impossible
        cases impossible
      · rintro ⟨_, impossible, _⟩
        cases impossible
    | none =>
      constructor
      · intro accepted
        obtain ⟨policy, made, _⟩ := Outcome.bind_eq_ok.mp accepted
        exact ⟨rfl, rfl, policy, made⟩
      · rintro ⟨_, _, policy, made⟩
        exact Outcome.bind_eq_ok.mpr ⟨policy, made, rfl⟩

theorem of_policy_eq_error {s : Settings} {e : Error} (failed : s.policy = .error e) :
    ∃ message field, e = .validation message field := by
  rcases Outcome.bind_eq_error.mp failed with v4 | ⟨_, _, failed⟩
  · exact Policy.of_ranges_eq_error v4
  rcases Outcome.bind_eq_error.mp failed with v6 | ⟨_, _, failed⟩
  · exact Policy.of_ranges_eq_error v6
  rcases Outcome.bind_eq_error.mp failed with countries | ⟨_, _, impossible⟩
  · obtain ⟨text, _, wrong⟩ := Outcome.of_mapM_eq_error countries
    have malformed : e = Country.malformed text := by
      unfold Country.ofText at wrong
      split at wrong
      · split at wrong
        · cases wrong
        · cases wrong
          rfl
      · cases wrong
        rfl
    exact ⟨_, _, malformed⟩
  · cases impossible

/-- Settings are refused for single values or for options that exclude each other. -/
theorem of_validate_eq_error {s : Settings} {e : Error} (failed : s.validate = .error e) :
    (∃ message field, e = .validation message field) ∨
      ∃ first second message, e = .conflict first second message := by
  unfold validate at failed
  cases limits : s.broken with
  | cons limit rest =>
    rw [limits] at failed
    cases failed
    exact .inl ⟨_, _, rfl⟩
  | nil =>
    rw [limits] at failed
    cases conflict : s.conflict? with
    | some c =>
      rw [conflict] at failed
      cases failed
      cases c with
      | _ => exact .inr ⟨_, _, _, rfl⟩
    | none =>
      rw [conflict] at failed
      rcases Outcome.bind_eq_error.mp failed with policy | ⟨_, _, impossible⟩
      · exact .inl (of_policy_eq_error policy)
      · cases impossible

/-- Countries are listed only where the CDN enforces them. -/
theorem countries_eq_nil {s : Settings} (sound : s.conflict? = none) (direct : s.network.useCdn = false) :
    s.access.countries.getD [] = [] := by
  unfold conflict? at sound
  rw [direct] at sound
  cases listed : s.access.hasCountries with
  | false => simpa [AccessSettings.hasCountries] using listed
  | true =>
    simp only [listed, Bool.false_and, Bool.false_eq_true, if_false, Bool.not_false, Bool.true_and,
      if_true] at sound
    split at sound
    · cases sound
    · split at sound
      · cases sound
      · split at sound
        · cases sound
        · cases sound

/-- Whether the lists of the settings let a request through: the address must lie in one of the
configured ranges if there are any, and the country must be known and listed if any country is. -/
def Admits (s : Settings) (address : Address) (country : Option Country) : Prop :=
  ((s.access.ipv4.getD [] = [] ∧ s.access.ipv6.getD [] = []) ∨
    ∃ text ∈ s.access.ipv4.getD [] ++ s.access.ipv6.getD [], ∃ range,
      Cidr.ofText text = .ok range ∧ range.contains address = true) ∧
  (s.access.countries.getD [] = [] ∨
    ∃ text ∈ s.access.countries.getD [], ∃ c, Country.ofText text = .ok c ∧ country = some c)

/-- The ranges of a policy are those that the configured texts stand for. -/
theorem addresses_policy {s : Settings} {policy : Policy} (made : s.policy = .ok policy)
    (address : Address) :
    ((policy.ipv4.toList = [] ∧ policy.ipv6.toList = []) ∨
        ∃ range ∈ policy.ipv4.toList ++ policy.ipv6.toList, range.contains address = true) ↔
      (s.access.ipv4.getD [] = [] ∧ s.access.ipv6.getD [] = []) ∨
        ∃ text ∈ s.access.ipv4.getD [] ++ s.access.ipv6.getD [], ∃ range,
          Cidr.ofText text = .ok range ∧ range.contains address = true := by
  obtain ⟨v4, first, rest⟩ := Outcome.bind_eq_ok.mp made
  obtain ⟨v6, second, rest⟩ := Outcome.bind_eq_ok.mp rest
  obtain ⟨_, _, same⟩ := Outcome.bind_eq_ok.mp rest
  cases same
  obtain ⟨noV4, v4⟩ := Policy.ranges_eq_ok first
  obtain ⟨noV6, v6⟩ := Policy.ranges_eq_ok second
  refine or_congr (and_congr noV4 noV6) ?_
  simp only [List.mem_append, or_and_right, exists_or]
  exact or_congr (v4 address) (v6 address)

theorem countries_policy {s : Settings} {policy : Policy} (made : s.policy = .ok policy)
    (country : Option Country) :
    (policy.countries.toList = [] ∨ ∃ c ∈ policy.countries.toList, country = some c) ↔
      s.access.countries.getD [] = [] ∨
        ∃ text ∈ s.access.countries.getD [], ∃ c, Country.ofText text = .ok c ∧ country = some c := by
  obtain ⟨_, _, rest⟩ := Outcome.bind_eq_ok.mp made
  obtain ⟨_, _, rest⟩ := Outcome.bind_eq_ok.mp rest
  obtain ⟨listed, third, same⟩ := Outcome.bind_eq_ok.mp rest
  cases same
  have members := Outcome.mem_of_mapM third
  refine or_congr (Ascending.ofList_eq_nil.trans (Outcome.eq_nil_of_mapM third)) ?_
  constructor
  · rintro ⟨c, member, known⟩
    obtain ⟨text, listed, found⟩ := (members c).mp (Ascending.mem_ofList.mp member)
    exact ⟨text, listed, c, found, known⟩
  · rintro ⟨text, listed, c, found, known⟩
    exact ⟨c, Ascending.mem_ofList.mpr ((members c).mpr ⟨text, listed, found⟩), known⟩

/-- A policy admits what the lists that it was read from admit. -/
theorem admits_policy {s : Settings} {policy : Policy} (made : s.policy = .ok policy)
    (address : Address) (country : Option Country) :
    policy.Admits address country ↔ s.Admits address country :=
  and_congr (addresses_policy made address) (countries_policy made country)

end Perimeter.Settings
