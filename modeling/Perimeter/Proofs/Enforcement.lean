import Mathlib.Data.List.Nodup
import Perimeter.Proofs.Firewall

/-!
What a compiled firewall decides. For any policy, whatever the family of its ranges, compiling
succeeds with a firewall that lets through the requests from its ranges and countries, or from its
countries alone if it has no range, and blocks all others (`Firewall.compile_enforces`). The rules
are numbered in their order, so that a firewall that goes by priority decides the same.
-/

namespace Perimeter.Firewall

/-! ### Priorities -/

private theorem ascending_ofFamily (scope : Scope) (family : Family) (ranges : Ascending Cidr)
    (geo : Option Expression) :
    (ofFamily scope family ranges geo).rules.Pairwise (fun a b => a.priority < b.priority) ∧
      ∀ rule ∈ (ofFamily scope family ranges geo).rules, rule.priority = priority family := by
  cases filled : ranges.isEmpty with
  | true =>
    rw [ofFamily_empty filled]
    exact ⟨.nil, fun _ impossible => absurd impossible List.not_mem_nil⟩
  | false =>
    rw [ofFamily_filled filled]
    refine ⟨List.pairwise_singleton _ _, fun rule member => ?_⟩
    rw [List.mem_singleton.mp member]
    cases geo with
    | none => rfl
    | some geo => rfl

/-- The rules are numbered in their order. -/
theorem ascending_rulesOf (scope : Scope) (policy : Policy) :
    (rulesOf scope policy).Pairwise fun a b => a.priority < b.priority := by
  unfold rulesOf
  split
  · exact List.pairwise_singleton _ _
  · obtain ⟨v4, first⟩ := ascending_ofFamily scope .ipv4 policy.ipv4 (geo? policy)
    obtain ⟨v6, second⟩ := ascending_ofFamily scope .ipv6 policy.ipv6 (geo? policy)
    refine List.pairwise_append.mpr ⟨v4, v6, fun a earlier b later => ?_⟩
    rw [first a earlier, second b later]
    decide

/-- Rules that are numbered in their order have no other order by priority. -/
theorem eq_of_perm_of_ascending {rules sorted : List FirewallRule}
    (ascending : rules.Pairwise fun a b => a.priority < b.priority) (same : sorted.Perm rules)
    (byPriority : sorted.Pairwise fun a b => a.priority ≤ b.priority) : sorted = rules := by
  have distinct : (rules.map (·.priority)).Nodup :=
    (List.pairwise_map.mpr ascending).imp fun less => UInt32.ne_of_lt less
  refine same.eq_of_pairwise (fun a b left right below above => ?_) byPriority
    (ascending.imp fun less => UInt32.le_of_lt less)
  exact List.inj_on_of_nodup_map distinct (same.mem_iff.mp left) right (UInt32.le_antisymm below above)

/-! ### Decisions -/

theorem evaluate_ofPolicy_iff (scope : Scope) (policy : Policy) (address : Address)
    (country : Option Country) :
    (ofPolicy scope policy).evaluate address country = .allow ↔
      policy ≠ .empty ∧ policy.Admits address country := by
  rw [evaluate_eq_allow_iff fun rule => action_of_mem_rulesOf, ne_eq, policy.eq_empty_iff,
    Bool.not_eq_true]
  exact exists_rule_iff scope policy address country

/-- Some request passes, unless the policy is empty. -/
theorem blocks_all_iff (scope : Scope) (policy : Policy) :
    (∀ address country, (ofPolicy scope policy).evaluate address country = .block) ↔
      policy = .empty := by
  have blocked : ∀ {d : Decision}, d = .block ↔ d ≠ .allow := by
    intro d
    cases d with
    | allow => simp
    | block => simp
  simp only [blocked, ne_eq, evaluate_ofPolicy_iff]
  constructor
  · intro none
    obtain ⟨address, country, admitted⟩ := policy.exists_admitted
    by_contra filled
    exact none address country ⟨filled, admitted⟩
  · intro empty address country passes
    exact passes.1 empty

/-- A policy that restricts something admits what its ranges hold, from its countries if it has any,
or what its countries hold if it has no range. -/
theorem restricts_and_admits_iff (policy : Policy) (address : Address) (country : Option Country) :
    policy ≠ .empty ∧ policy.Admits address country ↔
      ((policy.ipv4.toList ≠ [] ∨ policy.ipv6.toList ≠ []) ∧
        (∃ range ∈ policy.ipv4.toList ++ policy.ipv6.toList, range.Spans address) ∧
        (policy.countries.toList = [] ∨ ∃ c ∈ policy.countries.toList, country = some c)) ∨
      ((policy.ipv4.toList = [] ∧ policy.ipv6.toList = []) ∧
        ∃ c ∈ policy.countries.toList, country = some c) := by
  simp only [ne_eq, policy.eq_empty_iff, policy.isEmpty_iff, Policy.Admits, Cidr.contains_iff]
  by_cases none : policy.ipv4.toList = [] ∧ policy.ipv6.toList = []
  · constructor
    · rintro ⟨filled, _, taken⟩
      exact .inr ⟨none, taken.resolve_left fun empty => filled ⟨none.1, none.2, empty⟩⟩
    · rintro (⟨some, _⟩ | ⟨_, c, listed, known⟩)
      · exact absurd none (not_and_or.mpr some)
      · refine ⟨fun empty => ?_, .inl none, .inr ⟨c, listed, known⟩⟩
        rw [empty.2.2] at listed
        cases listed
  · constructor
    · rintro ⟨_, located, taken⟩
      exact .inl ⟨not_and_or.mp none, located.resolve_left none, taken⟩
    · rintro (⟨_, located, taken⟩ | ⟨empty, _⟩)
      · exact ⟨fun empty => none ⟨empty.1, empty.2.1⟩, .inr located, taken⟩
      · exact absurd empty none

theorem ofPolicy_eq_empty_iff (scope : Scope) (policy : Policy) :
    ofPolicy scope policy = .empty ↔ policy = .empty := by
  constructor
  · intro empty
    rw [policy.eq_empty_iff, ← isEmpty_ofPolicy scope, empty]
    rfl
  · rintro rfl
    rfl

theorem resources_eq_nil_iff (scope : Scope) (policy : Policy) (id : LogicalId) :
    (ofPolicy scope policy).resources id scope = [] ↔ policy = .empty := by
  rw [policy.eq_empty_iff, ← isEmpty_ofPolicy scope, resources]
  cases (ofPolicy scope policy).isEmpty with
  | true => simp
  | false => simp

/-- Compiling a policy always succeeds. The firewall allows a request exactly if a range holds its
address and its country is listed or no country is, or, for want of any range, if its country is
listed. It is empty, and blocks everything, exactly if the policy is empty, and it makes no
difference whether its rules are tried in their order or by ascending priority. -/
theorem compile_enforces (scope : Scope) (policy : Policy) :
    ∃ f, compile scope policy = .ok f ∧
      (∀ address country, f.evaluate address country = .allow ↔
        ((policy.ipv4.toList ≠ [] ∨ policy.ipv6.toList ≠ []) ∧
          (∃ range ∈ policy.ipv4.toList ++ policy.ipv6.toList, range.Spans address) ∧
          (policy.countries.toList = [] ∨ ∃ c ∈ policy.countries.toList, country = some c)) ∨
        ((policy.ipv4.toList = [] ∧ policy.ipv6.toList = []) ∧
          ∃ c ∈ policy.countries.toList, country = some c)) ∧
      ((∀ address country, f.evaluate address country = .block) ↔ policy = .empty) ∧
      (f = .empty ↔ policy = .empty) ∧
      (∀ id, f.resources id scope = [] ↔ policy = .empty) ∧
      (f.rules.Pairwise fun a b => a.priority < b.priority) ∧
      ∀ sorted : List FirewallRule, sorted.Perm f.rules →
        (sorted.Pairwise fun a b => a.priority ≤ b.priority) →
        ∀ address country, (⟨f.sets, sorted⟩ : Firewall).evaluate address country =
          f.evaluate address country := by
  refine ⟨ofPolicy scope policy, compile_eq scope policy, ?_, blocks_all_iff scope policy,
    ofPolicy_eq_empty_iff scope policy, resources_eq_nil_iff scope policy,
    ascending_rulesOf scope policy, ?_⟩
  · intro address country
    rw [evaluate_ofPolicy_iff, restricts_and_admits_iff]
  · intro sorted same byPriority address country
    rw [eq_of_perm_of_ascending (ascending_rulesOf scope policy) same byPriority]
    rfl

/-- Which set a range stands in does not matter, nor does the order in which the rules come. -/
theorem compile_enforces_crossed :
    ∃ f, compile .cdn ⟨.ofList [.v6 0x20010DB8000000000000000000000000 32],
        .ofList [.v4 0x01020300 24], .ofList [⟨9, 15⟩]⟩ = .ok f ∧
      f.evaluate (.v4 0x01020304) (some ⟨9, 15⟩) = .allow ∧
      f.evaluate (.v4 0x01020304) none ≠ .allow ∧
      (⟨f.sets, f.rules.reverse.mergeSort fun a b => a.priority ≤ b.priority⟩ : Firewall).evaluate
        (.v4 0x01020304) (some ⟨9, 15⟩) = .allow := by
  obtain ⟨f, compiled, decides, _, _, _, _, sorting⟩ :=
    compile_enforces .cdn ⟨.ofList [.v6 0x20010DB8000000000000000000000000 32],
      .ofList [.v4 0x01020300 24], .ofList [⟨9, 15⟩]⟩
  have allowed := (decides (.v4 0x01020304) (some ⟨9, 15⟩)).mpr (by decide +kernel)
  have blocked := mt (decides (.v4 0x01020304) none).mp (by decide +kernel)
  have sorted : (f.rules.reverse.mergeSort fun a b => a.priority ≤ b.priority).Pairwise
      fun a b => a.priority ≤ b.priority := by
    refine (List.pairwise_mergeSort ?_ ?_ f.rules.reverse).imp of_decide_eq_true
    · simp only [decide_eq_true_eq]
      exact fun a b c => UInt32.le_trans
    · simp only [Bool.or_eq_true, decide_eq_true_eq]
      exact fun a b => UInt32.le_total ..
  have same := (List.mergeSort_perm f.rules.reverse fun a b => a.priority ≤ b.priority).trans
    (List.reverse_perm f.rules)
  exact ⟨f, compiled, allowed, blocked, (sorting _ same sorted ..).trans allowed⟩

end Perimeter.Firewall
