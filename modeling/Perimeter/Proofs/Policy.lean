import Mathlib.Algebra.Group.Nat.Defs
import Mathlib.Data.List.Perm.Subperm
import Perimeter.Proofs.Outcome
import Perimeter.Policy

/-!
Policies. A range holds the addresses that agree with it on its leading bits (`Cidr.contains_iff`),
and a load balancer that takes the ingress ranges of a policy admits the addresses that the policy
admits (`exists_ingressRange_iff`). There is a bound on the number of ranges, since no two of them
share a rank (`length_ingressRanges`).
-/

namespace Perimeter

namespace Ascending

open Ranked (rank)

variable {α : Type} [Ranked α]

/-- A set has no more members than there are ranks for them. -/
theorem length_le_of_rank_lt (s : Ascending α) {n : Nat} (below : ∀ a : α, rank a < n) :
    s.toList.length ≤ n := by
  have distinct : (s.toList.map rank).Nodup :=
    (List.pairwise_map.mpr s.ascending).imp fun less => Nat.ne_of_lt less
  have inside : s.toList.map rank ⊆ List.range n := by
    intro k member
    obtain ⟨a, _, rfl⟩ := List.mem_map.mp member
    exact List.mem_range.mpr (below a)
  have few := (List.subperm_of_subset distinct inside).length_le
  rwa [List.length_map, List.length_range] at few

theorem nodup (s : Ascending α) : s.toList.Nodup :=
  s.ascending.imp fun less same => Nat.ne_of_lt less (congrArg rank same)

theorem ofList_eq_nil {xs : List α} : (ofList xs).toList = [] ↔ xs = [] := by
  rw [List.eq_nil_iff_forall_not_mem, List.eq_nil_iff_forall_not_mem]
  exact forall_congr' fun _ => not_congr mem_ofList

end Ascending

namespace Cidr

theorem rank_lt (range : Cidr) : range.rank < 2 ^ 137 := by
  cases range with
  | v4 a n =>
    have address := a.isLt
    have length := n.isLt
    simp only [rank]
    omega
  | v6 a n =>
    have address := a.isLt
    have length := n.isLt
    simp only [rank]
    omega

theorem ofTextAs_eq_ok {wanted : Family} {s : String} {range : Cidr} :
    ofTextAs wanted s = .ok range ↔ ofText s = .ok range ∧ range.family = wanted := by
  unfold ofTextAs
  rw [Outcome.bind_eq_ok]
  constructor
  · rintro ⟨read, found, checked⟩
    split at checked
    · rename_i own
      cases checked
      exact ⟨found, own⟩
    · cases checked
  · rintro ⟨found, own⟩
    exact ⟨range, found, if_pos own⟩

theorem contains_anyIpv4 (a : BitVec 32) : anyIpv4.contains (.v4 a) = true := by
  simp [anyIpv4, contains, BitVec.ushiftRight_eq_zero]

theorem contains_anyIpv6 (a : BitVec 128) : anyIpv6.contains (.v6 a) = true := by
  simp [anyIpv6, contains, BitVec.ushiftRight_eq_zero]

/-- An address lies in a range: it is of the same family and agrees with the range on the leading
bits that all members share. -/
def Spans : Cidr → Address → Prop
  | v4 a n, .v4 b => ∀ i < n.val, b.getMsbD i = a.getMsbD i
  | v6 a n, .v6 b => ∀ i < n.val, b.getMsbD i = a.getMsbD i
  | _, _ => False

private theorem ushiftRight_eq_iff {w n : Nat} (fits : n ≤ w) (a b : BitVec w) :
    a >>> (w - n) = b >>> (w - n) ↔ ∀ i < n, b.getMsbD i = a.getMsbD i := by
  constructor
  · intro same i shared
    have moved := congrArg (·.getMsbD (w - n + i)) same
    simp only [BitVec.getMsbD_ushiftRight, Nat.add_sub_cancel_left] at moved
    have inside : w - n + i < w := by omega
    have behind : ¬ w - n + i < w - n := by omega
    simpa [inside, behind] using moved.symm
  · intro agree
    refine BitVec.eq_of_getMsbD_eq fun i inside => ?_
    rw [BitVec.getMsbD_ushiftRight, BitVec.getMsbD_ushiftRight]
    by_cases behind : i < w - n
    · simp [behind]
    · rw [agree (i - (w - n)) (by omega)]

theorem contains_iff (range : Cidr) (address : Address) :
    range.contains address = true ↔ range.Spans address := by
  cases range with
  | v4 a n =>
    cases address with
    | v4 b => exact beq_iff_eq.trans (ushiftRight_eq_iff (by omega) a b)
    | v6 b => exact iff_of_false Bool.false_ne_true id
  | v6 a n =>
    cases address with
    | v4 b => exact iff_of_false Bool.false_ne_true id
    | v6 b => exact beq_iff_eq.trans (ushiftRight_eq_iff (by omega) a b)

instance (range : Cidr) (address : Address) : Decidable (range.Spans address) :=
  decidable_of_iff _ (contains_iff range address)

end Cidr

namespace Policy

theorem isEmpty_iff (p : Policy) :
    p.isEmpty = true ↔ p.ipv4.toList = [] ∧ p.ipv6.toList = [] ∧ p.countries.toList = [] := by
  simp [isEmpty, hasIpv4, hasIpv6, hasCountries, Ascending.isEmpty, and_assoc]

theorem eq_empty_iff (p : Policy) : p = .empty ↔ p.isEmpty = true := by
  rw [isEmpty_iff]
  constructor
  · rintro rfl
    exact ⟨rfl, rfl, rfl⟩
  · obtain ⟨⟨v4, _⟩, ⟨v6, _⟩, ⟨countries, _⟩⟩ := p
    rintro ⟨rfl, rfl, rfl⟩
    rfl

/-- The ranges of one family. -/
def ofFamily (p : Policy) : Family → Ascending Cidr
  | .ipv4 => p.ipv4
  | .ipv6 => p.ipv6

/-- Every policy admits some request. -/
theorem exists_admitted (p : Policy) : ∃ address country, p.Admits address country := by
  have located : ∃ address : Address, p.ipv4.toList = [] ∧ p.ipv6.toList = [] ∨
      ∃ range ∈ p.ipv4.toList ++ p.ipv6.toList, range.contains address = true := by
    cases ranges : p.ipv4.toList ++ p.ipv6.toList with
    | nil => exact ⟨.v4 0, .inl (List.append_eq_nil_iff.mp ranges)⟩
    | cons range others =>
      cases range with
      | v4 a n => exact ⟨.v4 a, .inr ⟨.v4 a n, List.mem_cons_self .., beq_self_eq_true _⟩⟩
      | v6 a n => exact ⟨.v6 a, .inr ⟨.v6 a n, List.mem_cons_self .., beq_self_eq_true _⟩⟩
  have settled : ∃ country : Option Country,
      p.countries.toList = [] ∨ ∃ c ∈ p.countries.toList, country = some c := by
    cases p.countries.toList with
    | nil => exact ⟨none, .inl rfl⟩
    | cons c others => exact ⟨some c, .inr ⟨c, List.mem_cons_self .., rfl⟩⟩
  obtain ⟨address, place⟩ := located
  obtain ⟨country, taken⟩ := settled
  exact ⟨address, country, place, taken⟩

/-! ### Ingress ranges -/

theorem exists_ingressRange_iff (p : Policy) (address : Address) :
    (∃ range ∈ p.ingressRanges, range.contains address = true) ↔
      (p.ipv4.toList = [] ∧ p.ipv6.toList = []) ∨
        ∃ range ∈ p.ipv4.toList ++ p.ipv6.toList, range.contains address = true := by
  by_cases none : p.ipv4.toList = [] ∧ p.ipv6.toList = []
  · have all : p.ingressRanges = [.anyIpv4, .anyIpv6] := by
      simp [ingressRanges, hasIpv4, hasIpv6, Ascending.isEmpty, none]
    rw [all]
    refine ⟨fun _ => .inl none, fun _ => ?_⟩
    cases address with
    | v4 a => exact ⟨.anyIpv4, by simp, Cidr.contains_anyIpv4 a⟩
    | v6 a => exact ⟨.anyIpv6, by simp, Cidr.contains_anyIpv6 a⟩
  · have given : p.ingressRanges = p.ipv4.toList ++ p.ipv6.toList := by
      unfold ingressRanges
      rw [if_neg]
      simpa [hasIpv4, hasIpv6, Ascending.isEmpty] using none
    rw [given, or_iff_right none]

theorem length_ingressRanges (p : Policy) : p.ingressRanges.length ≤ 2 ^ 138 := by
  have v4 := p.ipv4.length_le_of_rank_lt Cidr.rank_lt
  have v6 := p.ipv6.length_le_of_rank_lt Cidr.rank_lt
  unfold ingressRanges
  split
  · simp
  · rw [List.length_append]
    omega

/-! ### Reading a policy -/

theorem ranges_eq_ok {family : Family} {field : String} {texts : List String}
    {ranges : Ascending Cidr} (made : Policy.ranges family field texts = .ok ranges) :
    (ranges.toList = [] ↔ texts = []) ∧
      ∀ address : Address, (∃ range ∈ ranges.toList, range.contains address = true) ↔
        ∃ text ∈ texts, ∃ range, Cidr.ofText text = .ok range ∧ range.contains address = true := by
  obtain ⟨read, each, same⟩ := Outcome.bind_eq_ok.mp made
  cases same
  have members := Outcome.mem_of_mapM each
  refine ⟨Ascending.ofList_eq_nil.trans (Outcome.eq_nil_of_mapM each), fun address => ?_⟩
  constructor
  · rintro ⟨range, member, inside⟩
    obtain ⟨text, listed, found⟩ := (members range).mp (Ascending.mem_ofList.mp member)
    have parsed := Cidr.ofTextAs_eq_ok.mp (Outcome.mapError_eq_ok.mp found)
    exact ⟨text, listed, range, parsed.1, inside⟩
  · rintro ⟨text, listed, range, found, inside⟩
    -- The text has been read already, so what it stands for is of the wanted family.
    obtain ⟨range', member, read'⟩ : ∃ range' ∈ read,
        (Cidr.ofTextAs family text).mapError (Error.onField field) = .ok range' :=
      Outcome.exists_of_mapM each listed
    have parsed := Cidr.ofTextAs_eq_ok.mp (Outcome.mapError_eq_ok.mp read')
    cases found.symm.trans parsed.1
    exact ⟨range, Ascending.mem_ofList.mpr member, inside⟩

/-- A malformed text is a failure of validation. -/
theorem of_ranges_eq_error {family : Family} {field : String} {texts : List String} {e : Error}
    (failed : Policy.ranges family field texts = .error e) :
    ∃ message field, e = .validation message field := by
  have parsing : ∀ text e, Cidr.ofTextAs family text = .error e →
      ∃ message field, e = .validation message field := by
    intro text e wrong
    rcases Outcome.bind_eq_error.mp wrong with unread | ⟨range, _, other⟩
    · unfold Cidr.ofText at unread
      simp only at unread
      split at unread
      · cases unread
      · cases unread
        exact ⟨_, _, rfl⟩
    · split at other
      · cases other
      · cases other
        exact ⟨_, _, rfl⟩
  rcases Outcome.bind_eq_error.mp failed with each | ⟨_, _, impossible⟩
  · obtain ⟨text, _, wrong⟩ := Outcome.of_mapM_eq_error each
    cases parsed : Cidr.ofTextAs family text with
    | ok range =>
      rw [parsed] at wrong
      cases wrong
    | error e' =>
      obtain ⟨message, _, rfl⟩ := parsing text e' parsed
      rw [parsed] at wrong
      cases wrong
      exact ⟨message, some field, rfl⟩
  · cases impossible

end Policy

end Perimeter
