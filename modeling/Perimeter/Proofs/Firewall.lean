import Perimeter.Firewall.Compile
import Perimeter.Proofs.Naming
import Perimeter.Proofs.Policy
import Perimeter.Proofs.Stack

/-!
Compiled firewalls. Compiling never fails: every set gets a well-formed name (`setId_eq`), so
`compile` gives what `ofPolicy` writes down (`compile_eq`). The result lets a request through
exactly if the policy restricts something and admits the request (`exists_rule_iff`).
-/

namespace Perimeter

namespace Sha256

theorem length_hex (message : List UInt8) : (hex message).length = 64 := by
  simp only [hex, State.hex, wordHex, List.length_append, List.length_map, List.length_range]

theorem exists_digit_of_mem_hex {message : List UInt8} {c : Char} (member : c ∈ hex message) :
    ∃ n, c = hexDigit n := by
  have word : ∀ w, c ∈ wordHex w → ∃ n, c = hexDigit n := by
    intro w inside
    obtain ⟨i, _, rfl⟩ := List.mem_map.mp inside
    exact ⟨_, rfl⟩
  simp only [hex, State.hex, List.mem_append, or_assoc] at member
  rcases member with a | b | c | d | e | f | g | h
  all_goals exact word _ (by assumption)

theorem isAlphanum_of_mem_hex {message : List UInt8} {c : Char} (member : c ∈ hex message) :
    c.isAlphanum = true := by
  have digits : ∀ n : Fin 16, (hexDigit n).isAlphanum = true := by decide
  obtain ⟨n, rfl⟩ := exists_digit_of_mem_hex member
  exact digits n

end Sha256

namespace Firewall

/-! ### Names of sets -/

private theorem isName_setText (family : Family) (ranges : List Cidr) :
    Ident.isName (baseName family ++
      String.ofList ((Sha256.hex (keyBytes ranges)).take keyLength)) = true := by
  have base : Ident.isName (baseName family) = true ∧ (baseName family).length = 7 := by
    cases family with
    | ipv4 => decide
    | ipv6 => decide
  refine Ident.isName_append base.1 ?_ ?_
  · intro c member
    rw [String.toList_ofList] at member
    exact Sha256.isAlphanum_of_mem_hex (List.mem_of_mem_take member)
  · rw [base.2, String.length_ofList, List.length_take, Sha256.length_hex]
    decide

/-- The name of the set of a family with the given ranges. -/
def setName (family : Family) (ranges : List Cidr) : LogicalId := ⟨_, isName_setText family ranges⟩

theorem setId_eq (family : Family) (ranges : List Cidr) :
    setId (baseName family) ranges = .ok (setName family ranges) := Ident.ofText_eq_ok.mpr rfl

/-- The name of a set tells its family. -/
theorem setName_injective {f g : Family} {ranges ranges' : List Cidr}
    (same : setName f ranges = setName g ranges') : f = g := by
  have texts := congrArg (fun id : LogicalId => id.text.toList.take 4) same
  have start : ∀ (f : Family) (ranges : List Cidr),
      (setName f ranges).text.toList.take 4 = (baseName f).toList.take 4 := by
    intro f ranges
    rw [setName, String.toList_append, List.take_append_of_le_length]
    cases f with
    | ipv4 => decide
    | ipv6 => decide
  simp only [start] at texts
  cases f with
  | ipv4 =>
    cases g with
    | ipv4 => rfl
    | ipv6 => exact absurd texts (by decide)
  | ipv6 =>
    cases g with
    | ipv4 => exact absurd texts (by decide)
    | ipv6 => rfl

/-! ### The result of compiling -/

/-- The set and the rule of a family, unless it has no range. -/
def ofFamily (scope : Scope) (family : Family) (ranges : Ascending Cidr) (geo : Option Expression) :
    Firewall :=
  if ranges.isEmpty then .empty
  else ⟨[⟨setName family ranges.toList, family, scope, ranges.toList⟩],
    [setRule family (setName family ranges.toList) geo]⟩

theorem ofFamily_empty {scope : Scope} {family : Family} {ranges : Ascending Cidr}
    {geo : Option Expression} (none : ranges.isEmpty = true) :
    ofFamily scope family ranges geo = .empty := if_pos none

theorem ofFamily_filled {scope : Scope} {family : Family} {ranges : Ascending Cidr}
    {geo : Option Expression} (filled : ranges.isEmpty = false) :
    ofFamily scope family ranges geo =
      ⟨[⟨setName family ranges.toList, family, scope, ranges.toList⟩],
        [setRule family (setName family ranges.toList) geo]⟩ := by
  rw [ofFamily, filled]
  rfl

/-- A family with ranges has one set, which holds them all. -/
theorem mem_sets_iff {scope : Scope} {family : Family} {ranges : Ascending Cidr}
    {geo : Option Expression} {set : IpSet} :
    set ∈ (ofFamily scope family ranges geo).sets ↔ ranges.toList ≠ [] ∧
      set = ⟨setName family ranges.toList, family, scope, ranges.toList⟩ := by
  cases none : ranges.isEmpty with
  | true =>
    rw [ofFamily_empty none, List.isEmpty_iff.mp none]
    simp [Firewall.empty]
  | false =>
    have filled : ranges.toList ≠ [] := by
      intro empty
      cases none.symm.trans (List.isEmpty_iff.mpr empty)
    rw [ofFamily_filled none, List.mem_singleton, and_iff_right filled]

theorem id_of_mem_sets {scope : Scope} {family : Family} {ranges : Ascending Cidr}
    {geo : Option Expression} {set : IpSet} (member : set ∈ (ofFamily scope family ranges geo).sets) :
    set.id = setName family ranges.toList := by
  rw [(mem_sets_iff.mp member).2]

theorem compileFamily_eq (scope : Scope) (family : Family) (ranges : Ascending Cidr)
    (geo : Option Expression) :
    compileFamily scope family ranges geo = .ok (ofFamily scope family ranges geo) := by
  unfold compileFamily
  cases none : ranges.isEmpty with
  | true =>
    rw [ofFamily_empty none]
    rfl
  | false =>
    rw [ofFamily_filled none, setId_eq]
    rfl

/-- The sets of both families. -/
def setsOf (scope : Scope) (policy : Policy) : List IpSet :=
  (ofFamily scope .ipv4 policy.ipv4 (geo? policy)).sets ++
    (ofFamily scope .ipv6 policy.ipv6 (geo? policy)).sets

/-- A set holds the ranges of one family and is named by them. -/
theorem exists_of_mem_setsOf {scope : Scope} {policy : Policy} {set : IpSet}
    (member : set ∈ setsOf scope policy) : ∃ family, (policy.ofFamily family).toList ≠ [] ∧
      set = ⟨setName family (policy.ofFamily family).toList, family, scope,
        (policy.ofFamily family).toList⟩ := by
  rcases List.mem_append.mp member with v4 | v6
  · exact ⟨.ipv4, mem_sets_iff.mp v4⟩
  · exact ⟨.ipv6, mem_sets_iff.mp v6⟩

theorem id_of_mem_setsOf {scope : Scope} {policy : Policy} {set : IpSet}
    (member : set ∈ setsOf scope policy) : set.id = setName set.family set.ranges := by
  obtain ⟨family, _, rfl⟩ := exists_of_mem_setsOf member
  rfl

/-- The rules of both families. -/
def familyRules (scope : Scope) (policy : Policy) : List FirewallRule :=
  (ofFamily scope .ipv4 policy.ipv4 (geo? policy)).rules ++
    (ofFamily scope .ipv6 policy.ipv6 (geo? policy)).rules

/-- All rules: the one for countries alone stands only if no family has one. -/
def rulesOf (scope : Scope) (policy : Policy) : List FirewallRule :=
  match geo? policy, familyRules scope policy with
  | some geo, [] => [allowRule "GeoMatchRule" geoPriority geo]
  | _, rules => rules

/-- The firewall that enforces a policy, without a way to fail. -/
def ofPolicy (scope : Scope) (policy : Policy) : Firewall :=
  ⟨setsOf scope policy, rulesOf scope policy⟩

/-- Compiling a policy always succeeds. -/
theorem compile_eq (scope : Scope) (policy : Policy) :
    compile scope policy = .ok (ofPolicy scope policy) := by
  unfold compile ofPolicy rulesOf setsOf familyRules
  simp only [compileFamily_eq, bind, Except.bind]
  cases geo? policy with
  | none => rfl
  | some geo =>
    generalize (ofFamily scope .ipv4 policy.ipv4 (some geo)).rules ++
      (ofFamily scope .ipv6 policy.ipv6 (some geo)).rules = rules
    cases rules with
    | nil => rfl
    | cons _ _ => rfl

/-! ### What the firewall lets through -/

/-- With rules that all let through, a request passes if one of them holds of it. -/
theorem evaluate_eq_allow_iff {f : Firewall} (allowing : ∀ rule ∈ f.rules, rule.action = .allow)
    (address : Address) (country : Option Country) :
    f.evaluate address country = .allow ↔
      ∃ rule ∈ f.rules, rule.statement.holds f.sets address country = true := by
  rw [evaluate]
  cases first : f.rules.find? fun rule => rule.statement.holds f.sets address country with
  | none =>
    constructor
    · intro impossible
      cases impossible
    · rintro ⟨rule, member, holds⟩
      exact absurd holds (List.find?_eq_none.mp first rule member)
  | some rule =>
    have member := List.mem_of_find?_eq_some first
    have holds := List.find?_some first
    exact ⟨fun _ => ⟨rule, member, holds⟩, fun _ => allowing rule member⟩

theorem action_setRule (family : Family) (id : LogicalId) (geo : Option Expression) :
    (setRule family id geo).action = .allow := by
  cases geo with
  | none => rfl
  | some _ => rfl

theorem action_of_mem_rulesOf {scope : Scope} {policy : Policy} {rule : FirewallRule}
    (member : rule ∈ rulesOf scope policy) : rule.action = .allow := by
  have family : ∀ (f : Family) (ranges : Ascending Cidr),
      rule ∈ (ofFamily scope f ranges (geo? policy)).rules → rule.action = .allow := by
    intro f ranges inside
    unfold ofFamily at inside
    split at inside
    · cases inside
    · rw [List.mem_singleton.mp inside]
      exact action_setRule ..
  unfold rulesOf at member
  split at member
  · rw [List.mem_singleton.mp member]
    rfl
  · rcases List.mem_append.mp member with v4 | v6
    · exact family _ _ v4
    · exact family _ _ v6

theorem geo?_eq_none_iff {policy : Policy} : geo? policy = none ↔ policy.countries.toList = [] := by
  simp [geo?, Policy.hasCountries, Ascending.isEmpty]

/-- The condition on the country holds if no country is listed or the known one is. -/
private theorem geo_holds_iff (policy : Policy) (sets : List IpSet) (address : Address)
    (country : Option Country) :
    (∀ geo, geo? policy = some geo → geo.holds sets address country = true) ↔
      policy.countries.toList = [] ∨ ∃ c ∈ policy.countries.toList, country = some c := by
  unfold geo? Policy.hasCountries Ascending.isEmpty
  cases listed : policy.countries.toList with
  | nil => simp
  | cons c cs =>
    have holds : (Expression.geo (c :: cs)).holds sets address country = true ↔
        ∃ d ∈ c :: cs, country = some d := by
      rw [Expression.holds]
      cases country with
      | none => simp [Expression.geoHolds]
      | some known => simp [Expression.geoHolds]
    rw [← holds]
    simp

private theorem find?_own (name : LogicalId) (family : Family) (scope : Scope) (ranges : List Cidr) :
    [(⟨name, family, scope, ranges⟩ : IpSet)].find? (fun set => set.id == name) =
      some ⟨name, family, scope, ranges⟩ := List.find?_cons_of_pos (beq_self_eq_true name)

/-- A rule of a family finds the set of that family. -/
private theorem setHolds_eq (scope : Scope) {policy : Policy} {family : Family}
    {ranges : Ascending Cidr}
    (own : (family = .ipv4 ∧ ranges = policy.ipv4) ∨ (family = .ipv6 ∧ ranges = policy.ipv6))
    (filled : ranges.isEmpty = false) (address : Address) :
    Expression.setHolds (setsOf scope policy) address (setName family ranges.toList) =
      ranges.toList.any fun range => range.contains address := by
  have found : (setsOf scope policy).find? (fun set => set.id == setName family ranges.toList) =
      some ⟨setName family ranges.toList, family, scope, ranges.toList⟩ := by
    unfold setsOf
    rcases own with ⟨rfl, rfl⟩ | ⟨rfl, rfl⟩
    · rw [ofFamily_filled filled, List.find?_append, find?_own]
      rfl
    · have skipped : ((ofFamily scope .ipv4 policy.ipv4 (geo? policy)).sets.find?
          fun set => set.id == setName .ipv6 policy.ipv6.toList) = none := by
        rw [List.find?_eq_none]
        intro set member same
        rw [id_of_mem_sets member, beq_iff_eq] at same
        cases setName_injective same
      rw [List.find?_append, skipped, Option.none_or, ofFamily_filled filled, find?_own]
  rw [Expression.setHolds, found]

/-- The rule of a family holds if a range of the family does and the country is taken. -/
private theorem exists_familyRule_iff (scope : Scope) {policy : Policy} {family : Family}
    {ranges : Ascending Cidr}
    (own : (family = .ipv4 ∧ ranges = policy.ipv4) ∨ (family = .ipv6 ∧ ranges = policy.ipv6))
    (address : Address) (country : Option Country) :
    (∃ rule ∈ (ofFamily scope family ranges (geo? policy)).rules,
        rule.statement.holds (setsOf scope policy) address country = true) ↔
      (∃ range ∈ ranges.toList, range.contains address = true) ∧
        (policy.countries.toList = [] ∨ ∃ c ∈ policy.countries.toList, country = some c) := by
  rw [← geo_holds_iff policy (setsOf scope policy) address country]
  cases filled : ranges.isEmpty with
  | true =>
    rw [ofFamily_empty filled, List.isEmpty_iff.mp filled]
    simp [Firewall.empty]
  | false =>
    have set := setHolds_eq scope own filled address
    rw [ofFamily_filled filled]
    cases geo? policy with
    | none => simp [setRule, allowRule, Expression.holds, set]
    | some geo => simp [setRule, allowRule, Expression.holds, Expression.allHold, set]

private theorem rules_ofFamily_eq_nil {scope : Scope} {family : Family} {ranges : Ascending Cidr}
    {geo : Option Expression} :
    (ofFamily scope family ranges geo).rules = [] ↔ ranges.toList = [] := by
  rw [← List.isEmpty_iff (l := ranges.toList)]
  cases filled : ranges.isEmpty with
  | true =>
    rw [ofFamily_empty filled]
    exact ⟨fun _ => filled, fun _ => rfl⟩
  | false =>
    rw [ofFamily_filled filled]
    constructor
    · intro impossible
      cases impossible
    · intro none
      cases filled.symm.trans none

theorem familyRules_eq_nil (scope : Scope) (policy : Policy) :
    familyRules scope policy = [] ↔ policy.ipv4.toList = [] ∧ policy.ipv6.toList = [] := by
  rw [familyRules, List.append_eq_nil_iff, rules_ofFamily_eq_nil, rules_ofFamily_eq_nil]

/-- Some rule holds of a request exactly if the policy restricts something and admits the request. -/
theorem exists_rule_iff (scope : Scope) (policy : Policy) (address : Address)
    (country : Option Country) :
    (∃ rule ∈ rulesOf scope policy,
        rule.statement.holds (setsOf scope policy) address country = true) ↔
      policy.isEmpty = false ∧ policy.Admits address country := by
  have geo := geo_holds_iff policy (setsOf scope policy) address country
  rw [← Bool.not_eq_true, Policy.isEmpty_iff, Policy.Admits]
  by_cases none : familyRules scope policy = []
  · obtain ⟨noV4, noV6⟩ := (familyRules_eq_nil scope policy).mp none
    rw [← geo]
    cases listed : geo? policy with
    | none =>
      have empty := geo?_eq_none_iff.mp listed
      have rules : rulesOf scope policy = [] := by
        rw [rulesOf, listed]
        exact none
      simp [rules, noV4, noV6, empty]
    | some e =>
      have filled : policy.countries.toList ≠ [] := by
        intro empty
        cases listed.symm.trans (geo?_eq_none_iff.mpr empty)
      have rules : rulesOf scope policy = [allowRule "GeoMatchRule" geoPriority e] := by
        rw [rulesOf, listed, none]
      simp [rules, noV4, noV6, filled, allowRule]
  · have rules : rulesOf scope policy = familyRules scope policy := by
      unfold rulesOf
      split
      · rename_i empty
        exact absurd empty none
      · rfl
    have v4 := exists_familyRule_iff scope (.inl ⟨rfl, Eq.refl policy.ipv4⟩) address country
    have v6 := exists_familyRule_iff scope (.inr ⟨rfl, Eq.refl policy.ipv6⟩) address country
    have some : ¬ (policy.ipv4.toList = [] ∧ policy.ipv6.toList = []) := fun empty =>
      none ((familyRules_eq_nil scope policy).mpr empty)
    rw [rules, familyRules, or_iff_right some]
    simp only [List.mem_append, or_and_right, exists_or, v4, v6]
    constructor
    · intro admitted
      exact ⟨fun empty => some ⟨empty.1, empty.2.1⟩, admitted⟩
    · rintro ⟨_, admitted⟩
      exact admitted

theorem isEmpty_ofPolicy (scope : Scope) (policy : Policy) :
    (ofPolicy scope policy).isEmpty = policy.isEmpty := by
  rw [Bool.eq_iff_iff, Policy.isEmpty_iff, isEmpty, ofPolicy, List.isEmpty_iff, ← and_assoc,
    ← familyRules_eq_nil scope policy]
  unfold rulesOf
  split
  · rename_i geo listed none
    have filled : policy.countries.toList ≠ [] := by
      intro empty
      cases listed.symm.trans (geo?_eq_none_iff.mpr empty)
    simp [filled]
  · rename_i other
    constructor
    · intro none
      refine ⟨none, ?_⟩
      cases listed : geo? policy with
      | none => exact geo?_eq_none_iff.mp listed
      | some e => exact absurd none (other e listed)
    · rintro ⟨none, _⟩
      exact none

/-! ### Sets and the rules that name them -/

theorem geo?_eq_some {policy : Policy} {geo : Expression} (listed : geo? policy = some geo) :
    geo = .geo policy.countries.toList := by
  unfold geo? at listed
  split at listed
  · exact (Option.some.inj listed).symm
  · cases listed

theorem scope_of_mem_setsOf {scope : Scope} {policy : Policy} {set : IpSet}
    (member : set ∈ setsOf scope policy) : set.scope = scope := by
  obtain ⟨family, _, rfl⟩ := exists_of_mem_setsOf member
  rfl

private theorem exists_familyLeaf_iff (scope : Scope) (family : Family) (ranges : Ascending Cidr)
    (policy : Policy) (id : LogicalId) :
    (∃ rule ∈ (ofFamily scope family ranges (geo? policy)).rules,
        Expression.ipSet id ∈ rule.statement.leaves) ↔
      ∃ set ∈ (ofFamily scope family ranges (geo? policy)).sets, set.id = id := by
  cases filled : ranges.isEmpty with
  | true =>
    rw [ofFamily_empty filled]
    simp [Firewall.empty]
  | false =>
    rw [ofFamily_filled filled]
    cases listed : geo? policy with
    | none => simp [setRule, allowRule, Expression.leaves, eq_comm]
    | some geo =>
      rw [geo?_eq_some listed]
      simp [setRule, allowRule, Expression.leaves, Expression.leavesOf, eq_comm]

/-- The rules name all sets and nothing else. -/
theorem exists_leaf_iff (scope : Scope) (policy : Policy) (id : LogicalId) :
    (∃ rule ∈ rulesOf scope policy, Expression.ipSet id ∈ rule.statement.leaves) ↔
      ∃ set ∈ setsOf scope policy, set.id = id := by
  have families : (∃ rule ∈ familyRules scope policy, Expression.ipSet id ∈ rule.statement.leaves) ↔
      ∃ set ∈ setsOf scope policy, set.id = id := by
    simp only [familyRules, setsOf, List.mem_append, or_and_right, exists_or, exists_familyLeaf_iff]
  rw [← families]
  unfold rulesOf
  split
  · -- The rule for countries alone stands only where there is no set.
    rename_i geo listed none
    rw [geo?_eq_some listed, none]
    simp [allowRule, Expression.leaves]
  · rfl

/-! ### Names of resources -/

open Resource (names)

theorem names_resources {scope : Scope} {policy : Policy} (filled : policy.isEmpty = false)
    (id : LogicalId) :
    names ((ofPolicy scope policy).resources id scope) =
      (setsOf scope policy).map (·.id.text) ++ [id.text] := by
  have rules : ¬ (ofPolicy scope policy).isEmpty = true := by
    rw [isEmpty_ofPolicy, filled]
    exact Bool.false_ne_true
  rw [resources, if_neg rules, names, List.map_append, List.map_map]
  rfl

/-- The names of sets start as the base names do. -/
theorem head?_of_mem_sets {scope : Scope} {policy : Policy} {name : String}
    (member : name ∈ (setsOf scope policy).map (·.id.text)) : name.toList.head? = some 'I' := by
  have start : ∀ (family : Family) (ranges : List Cidr),
      (setName family ranges).text.toList.head? = some 'I' := by
    intro family ranges
    rw [setName, String.toList_append, List.head?_append]
    cases family with
    | ipv4 => rfl
    | ipv6 => rfl
  obtain ⟨set, inside, rfl⟩ := List.mem_map.mp member
  rw [id_of_mem_setsOf inside]
  exact start ..

theorem nodup_sets (scope : Scope) (policy : Policy) :
    ((setsOf scope policy).map (·.id.text)).Nodup := by
  have one : ∀ (family : Family) (ranges : Ascending Cidr),
      ((ofFamily scope family ranges (geo? policy)).sets.map (·.id.text)).Nodup := by
    intro family ranges
    cases none : ranges.isEmpty with
    | true =>
      rw [ofFamily_empty none]
      exact .nil
    | false =>
      rw [ofFamily_filled none]
      exact List.nodup_singleton _
  rw [setsOf, List.map_append, List.nodup_append]
  refine ⟨one _ _, one _ _, ?_⟩
  intro name v4 _ v6 same
  obtain ⟨set, inside, rfl⟩ := List.mem_map.mp v4
  obtain ⟨set', inside', rfl⟩ := List.mem_map.mp v6
  rw [id_of_mem_sets inside, id_of_mem_sets inside'] at same
  cases setName_injective (Ident.ext same)

end Firewall

end Perimeter
