import Perimeter.Proofs.Firewall

/-!
Conditions of rules. However deep its conjunctions are nested, a condition holds of a request exactly
if its leaves do (`Expression.holds_iff_leaves`), so that a firewall decides by the leaves of its rules
alone (`Firewall.decides_by_leaves`).
-/

namespace Perimeter

namespace Expression

variable {sets : List IpSet} {address : Address} {country : Option Country}

/-! ### Leaves -/

mutual

theorem of_mem_leaves {leaf : Expression} : ∀ {e : Expression}, leaf ∈ e.leaves →
    (∃ id, leaf = .ipSet id) ∨ ∃ countries, leaf = .geo countries
  | .ipSet id, member => .inl ⟨id, List.mem_singleton.mp member⟩
  | .geo countries, member => .inr ⟨countries, List.mem_singleton.mp member⟩
  | .all _, member => of_mem_leavesOf member

theorem of_mem_leavesOf {leaf : Expression} : ∀ {es : List Expression}, leaf ∈ leavesOf es →
    (∃ id, leaf = .ipSet id) ∨ ∃ countries, leaf = .geo countries
  | [], impossible => absurd impossible List.not_mem_nil
  | _ :: _, member => by
    rcases List.mem_append.mp member with here | later
    · exact of_mem_leaves here
    · exact of_mem_leavesOf later

end

theorem allHold_iff {es : List Expression} :
    allHold sets address country es = true ↔ ∀ e ∈ es, e.holds sets address country = true := by
  induction es with
  | nil => simp [allHold]
  | cons e es ih => simp [allHold, ih]

mutual

/-- A condition holds if all of its leaves do, at whatever depth they stand. -/
theorem holds_iff_leaves : ∀ e : Expression, e.holds sets address country = true ↔
    ∀ leaf ∈ e.leaves, leaf.holds sets address country = true
  | .ipSet id => by simp [leaves]
  | .geo countries => by simp [leaves]
  | .all parts => by rw [holds, leaves, allHold_iff_leaves parts]

theorem allHold_iff_leaves : ∀ es : List Expression, allHold sets address country es = true ↔
    ∀ leaf ∈ leavesOf es, leaf.holds sets address country = true
  | [] => by simp [allHold, leavesOf]
  | e :: es => by
    rw [allHold, Bool.and_eq_true, holds_iff_leaves e, allHold_iff_leaves es, leavesOf,
      List.forall_mem_append]

end

/-! ### What a leaf asks for -/

/-- The first of the sets with that name has a range with the address. -/
def InFirstSet (sets : List IpSet) (address : Address) (id : LogicalId) : Prop :=
  ∃ before set after, sets = before ++ set :: after ∧ (∀ other ∈ before, other.id ≠ id) ∧
    set.id = id ∧ ∃ range ∈ set.ranges, range.Spans address

theorem setHolds_iff {id : LogicalId} : setHolds sets address id = true ↔ InFirstSet sets address id := by
  have inside : ∀ set : IpSet, (set.ranges.any fun range => range.contains address) = true ↔
      ∃ range ∈ set.ranges, range.Spans address := by
    intro set
    simp only [List.any_eq_true, Cidr.contains_iff]
  unfold setHolds
  cases found : sets.find? fun set => set.id == id with
  | none =>
    have absent := List.find?_eq_none.mp found
    refine iff_of_false Bool.false_ne_true ?_
    rintro ⟨before, set, after, rfl, _, named, _⟩
    exact absent set (List.mem_append_right _ (List.mem_cons_self ..)) (beq_iff_eq.mpr named)
  | some set =>
    obtain ⟨named, before, after, split, others⟩ := List.find?_eq_some_iff_append.mp found
    have named : set.id = id := beq_iff_eq.mp named
    constructor
    · intro holds
      refine ⟨before, set, after, split, fun other earlier => ?_, named, (inside set).mp holds⟩
      simpa using others other earlier
    · rintro ⟨before', set', after', split', others', named', holds⟩
      -- Both sets are the first one of that name.
      have again : (sets.find? fun set => set.id == id) = some set' := by
        refine List.find?_eq_some_iff_append.mpr ⟨beq_iff_eq.mpr named', before', after', split', ?_⟩
        intro other earlier
        simpa using others' other earlier
      cases found.symm.trans again
      exact (inside set).mpr holds

theorem geoHolds_iff {countries : List Country} :
    geoHolds country countries = true ↔ ∃ c ∈ countries, country = some c := by
  cases country with
  | none => simp [geoHolds]
  | some c => simp [geoHolds]

/-- What the leaves of a condition ask of a request. -/
structure LeavesHold (sets : List IpSet) (address : Address) (country : Option Country)
    (e : Expression) : Prop where
  ipSets : ∀ id, .ipSet id ∈ e.leaves → InFirstSet sets address id
  /-- The country is known and stands in every list. -/
  countries : ∀ countries, .geo countries ∈ e.leaves → ∃ c ∈ countries, country = some c

theorem holds_iff (e : Expression) :
    e.holds sets address country = true ↔ LeavesHold sets address country e := by
  rw [holds_iff_leaves]
  constructor
  · intro each
    refine ⟨fun id member => ?_, fun countries member => ?_⟩
    · have leaf := each _ member
      rw [holds] at leaf
      exact setHolds_iff.mp leaf
    · have leaf := each _ member
      rw [holds] at leaf
      exact geoHolds_iff.mp leaf
  · intro asked leaf member
    rcases of_mem_leaves member with ⟨id, rfl⟩ | ⟨countries, rfl⟩
    · rw [holds]
      exact setHolds_iff.mpr (asked.ipSets id member)
    · rw [holds]
      exact geoHolds_iff.mpr (asked.countries countries member)

/-- Neither order nor repetition of the leaves matters. -/
theorem holds_flattened {e : Expression} {parts : List Expression}
    (same : ∀ leaf, leaf ∈ parts ↔ leaf ∈ e.leaves) :
    (all parts).holds sets address country = e.holds sets address country := by
  rw [Bool.eq_iff_iff, holds, allHold_iff, holds_iff_leaves e]
  exact forall_congr' fun leaf => imp_congr_left (same leaf)

end Expression

/-- A rule with the leaves of another one's condition side by side, in any order and any number of
times, and otherwise the same. -/
def FirewallRule.Flattens (rule flat : FirewallRule) : Prop :=
  ∃ parts, flat = { rule with statement := .all parts } ∧
    ∀ leaf, leaf ∈ parts ↔ leaf ∈ rule.statement.leaves

namespace Firewall

open Expression (LeavesHold)

/-- Rules that hold of the same requests with the same actions decide alike. -/
theorem evaluate_congr {sets : List IpSet} {rules others : List FirewallRule} {address : Address}
    {country : Option Country}
    (alike : List.Forall₂ (fun rule other => rule.action = other.action ∧
      rule.statement.holds sets address country = other.statement.holds sets address country)
      rules others) :
    (⟨sets, rules⟩ : Firewall).evaluate address country =
      (⟨sets, others⟩ : Firewall).evaluate address country := by
  simp only [evaluate]
  induction alike with
  | nil => rfl
  | @cons rule other _ _ first _ ih =>
    rw [List.find?_cons, List.find?_cons, first.2]
    cases other.statement.holds sets address country with
    | true => exact first.1
    | false => exact ih

theorem evaluate_flattened {sets : List IpSet} {rules others : List FirewallRule}
    (flattened : List.Forall₂ (fun rule other => other = rule ∨ rule.Flattens other) rules others)
    (address : Address) (country : Option Country) :
    (⟨sets, others⟩ : Firewall).evaluate address country =
      (⟨sets, rules⟩ : Firewall).evaluate address country := by
  refine (evaluate_congr (flattened.imp fun rule other same => ?_)).symm
  rcases same with rfl | ⟨parts, rfl, same⟩
  · exact ⟨rfl, rfl⟩
  · exact ⟨rfl, (Expression.holds_flattened same).symm⟩

/-- Either no rule has leaves that all hold, or the first such rule decides. -/
theorem evaluate_cases (f : Firewall) (address : Address) (country : Option Country) :
    ((∀ rule ∈ f.rules, ¬ LeavesHold f.sets address country rule.statement) ∧
        f.evaluate address country = .block) ∨
      ∃ before rule after, f.rules = before ++ rule :: after ∧
        (∀ earlier ∈ before, ¬ LeavesHold f.sets address country earlier.statement) ∧
        LeavesHold f.sets address country rule.statement ∧
        f.evaluate address country = rule.action := by
  unfold evaluate
  cases found : f.rules.find? fun rule => rule.statement.holds f.sets address country with
  | none =>
    refine .inl ⟨fun rule member holds => ?_, rfl⟩
    exact List.find?_eq_none.mp found rule member ((Expression.holds_iff _).mpr holds)
  | some rule =>
    obtain ⟨holds, before, after, split, others⟩ := List.find?_eq_some_iff_append.mp found
    refine .inr ⟨before, rule, after, split, fun earlier member passes => ?_,
      (Expression.holds_iff _).mp holds, rfl⟩
    have refused := others earlier member
    rw [(Expression.holds_iff _).mpr passes] at refused
    cases refused

/-- A condition holds of a request exactly if its address lies in the first set of every name among
the leaves and its country is known and stands in every list among them. So no decision changes where
conditions are replaced by their leaves, in any order and any number of times, and a firewall takes
the action of its first rule all of whose leaves hold, or blocks where there is none. -/
theorem decides_by_leaves (f : Firewall) (address : Address) (country : Option Country) :
    (∀ sets e, e.holds sets address country = true ↔ LeavesHold sets address country e) ∧
    (∀ others, List.Forall₂ (fun rule other => other = rule ∨ rule.Flattens other) f.rules others →
      (⟨f.sets, others⟩ : Firewall).evaluate address country = f.evaluate address country) ∧
    (((∀ rule ∈ f.rules, ¬ LeavesHold f.sets address country rule.statement) ∧
        f.evaluate address country = .block) ∨
      ∃ before rule after, f.rules = before ++ rule :: after ∧
        (∀ earlier ∈ before, ¬ LeavesHold f.sets address country earlier.statement) ∧
        LeavesHold f.sets address country rule.statement ∧
        f.evaluate address country = rule.action) :=
  ⟨fun _ e => e.holds_iff, fun _ flattened => evaluate_flattened flattened address country,
    f.evaluate_cases address country⟩

/-- A nested condition on the second of two sets of one name is never met, however its leaves are
written; a rule behind it with no leaf at all decides. -/
theorem decides_by_leaves_nested :
    let id : LogicalId := ⟨"Office", by decide⟩
    let sets : List IpSet := [⟨id, .ipv4, .cdn, []⟩, ⟨id, .ipv4, .cdn, [.v4 0x0A000000 8]⟩]
    let geo : Expression := .geo [⟨9, 15⟩]
    let block : FirewallRule := ⟨"Block", 1, .all [.all [], .all [.ipSet id, .all [geo]]], .block, "Block"⟩
    let allow : FirewallRule := ⟨"Allow", 2, .all [.all []], .allow, "Allow"⟩
    let flat : FirewallRule := { block with statement := .all [geo, .ipSet id, geo] }
    List.Forall₂ (fun rule other => other = rule ∨ rule.Flattens other) [block, allow] [flat, allow] ∧
      (⟨sets, [flat, allow]⟩ : Firewall).evaluate (.v4 0x0A000001) (some ⟨9, 15⟩) = .allow := by
  intro id sets geo block allow flat
  have flattened : List.Forall₂ (fun rule other => other = rule ∨ rule.Flattens other)
      [block, allow] [flat, allow] := by
    refine .cons (.inr ⟨_, rfl, fun leaf => ?_⟩) (.cons (.inl rfl) .nil)
    simp [block, geo, Expression.leaves, Expression.leavesOf, or_comm]
  obtain ⟨_, replaced, _⟩ :=
    decides_by_leaves ⟨sets, [block, allow]⟩ (.v4 0x0A000001) (some ⟨9, 15⟩)
  refine ⟨flattened, (replaced _ flattened).trans ?_⟩
  decide

end Firewall

end Perimeter
