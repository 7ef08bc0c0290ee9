import Mathlib.Data.List.Nodup
import Perimeter.Proofs.Outcome
import Perimeter.Stack

/-!
Adding resources to a stack. Several resources are added exactly if their names differ from each
other and from those in the stack (`addAll_eq_ok_iff`); the stack then holds them behind the
earlier ones and is unchanged otherwise.
-/

namespace Perimeter

/-- The names of resources, in order. -/
def Resource.names (rs : List Resource) : List String := rs.map (·.id.text)

theorem Resource.names_append (rs more : List Resource) : names (rs ++ more) = names rs ++ names more :=
  List.map_append

namespace Stack

open Resource (names)

/-- A stack with resources put behind its own, whatever their names. -/
def push (s : Stack) (rs : List Resource) : Stack := { s with resources := s.resources ++ rs }

theorem push_push (s : Stack) (rs more : List Resource) :
    (s.push rs).push more = s.push (rs ++ more) := by
  simp only [push, List.append_assoc]

theorem find?_eq_none_iff (s : Stack) (name : String) :
    s.find? name = none ↔ name ∉ names s.resources := by
  simp [find?, names, List.find?_eq_none]

/-- Names within a stack that differ lead to their resources. -/
theorem find?_of_nodup {s : Stack} (distinct : (names s.resources).Nodup) {r : Resource}
    (member : r ∈ s.resources) : s.find? r.id.text = some r := by
  cases found : s.find? r.id.text with
  | none => exact absurd (List.mem_map.mpr ⟨r, member, rfl⟩) ((find?_eq_none_iff s _).mp found)
  | some r' =>
    have same : r'.id.text = r.id.text := by simpa using List.find?_some found
    exact congrArg some (List.inj_on_of_nodup_map distinct (List.mem_of_find?_eq_some found) member same)

theorem add_eq_ok_iff {s t : Stack} {r : Resource} :
    s.add r = .ok t ↔ r.id.text ∉ names s.resources ∧ t = s.push [r] := by
  rw [← find?_eq_none_iff, add]
  cases s.find? r.id.text with
  | none =>
    constructor
    · intro same
      cases same
      exact ⟨rfl, rfl⟩
    · rintro ⟨_, rfl⟩
      rfl
  | some taken =>
    constructor
    · intro impossible
      cases impossible
    · rintro ⟨impossible, _⟩
      cases impossible

theorem addAll_nil (s : Stack) : s.addAll [] = .ok s := rfl

theorem addAll_cons (s : Stack) (r : Resource) (rs : List Resource) :
    s.addAll (r :: rs) = s.add r >>= fun s => s.addAll rs := by
  rw [addAll, extend]
  cases s.add r with
  | error e => rfl
  | ok t => rfl

theorem addAll_singleton (s : Stack) (r : Resource) : s.addAll [r] = s.add r := by
  rw [addAll_cons]
  cases s.add r with
  | error e => rfl
  | ok t => rfl

theorem addAll_append (s : Stack) (rs more : List Resource) :
    s.addAll (rs ++ more) = s.addAll rs >>= fun s => s.addAll more := by
  induction rs generalizing s with
  | nil => rfl
  | cons r rs ih =>
    rw [List.cons_append, addAll_cons, addAll_cons]
    cases s.add r with
    | error e => rfl
    | ok t => exact ih t

theorem addAll_eq_ok_iff {s t : Stack} {rs : List Resource} :
    s.addAll rs = .ok t ↔
      (names rs).Nodup ∧ (names s.resources).Disjoint (names rs) ∧ t = s.push rs := by
  induction rs generalizing s with
  | nil =>
    rw [addAll_nil, push, List.append_nil]
    constructor
    · intro same
      cases same
      exact ⟨.nil, List.disjoint_nil_right _, rfl⟩
    · rintro ⟨_, _, rfl⟩
      rfl
  | cons r rs ih =>
    have pushed : names (s.push [r]).resources = names s.resources ++ [r.id.text] := List.map_append
    rw [addAll_cons, Outcome.bind_eq_ok, names, List.map_cons, List.nodup_cons,
      List.disjoint_cons_right]
    constructor
    · rintro ⟨_, added, rest⟩
      obtain ⟨new, rfl⟩ := add_eq_ok_iff.mp added
      obtain ⟨distinct, apart, rfl⟩ := ih.mp rest
      rw [pushed, List.disjoint_append_left, List.singleton_disjoint] at apart
      exact ⟨⟨apart.2, distinct⟩, ⟨new, apart.1⟩, push_push s [r] rs⟩
    · rintro ⟨⟨other, distinct⟩, ⟨new, apart⟩, rfl⟩
      refine ⟨_, add_eq_ok_iff.mpr ⟨new, rfl⟩, ih.mpr ⟨distinct, ?_, (push_push s [r] rs).symm⟩⟩
      rw [pushed, List.disjoint_append_left, List.singleton_disjoint]
      exact ⟨apart, other⟩

theorem name_addAll {s t : Stack} {rs : List Resource} (ok : s.addAll rs = .ok t) : t.name = s.name := by
  obtain ⟨_, _, rfl⟩ := addAll_eq_ok_iff.mp ok
  rfl

theorem dependOn_eq (s : Stack) (other : String) :
    ∃ dependsOn, s.dependOn other = { s with dependsOn } := by
  rw [dependOn]
  split
  · exact ⟨s.dependsOn, rfl⟩
  · exact ⟨s.dependsOn ++ [other], rfl⟩

/-! ### Outputs -/

theorem lookup_cons (k v : String) (rest : List (String × String)) (other : String) :
    ((k, v) :: rest).lookup other = if other = k then some v else rest.lookup other := by
  rw [List.lookup_cons]
  by_cases found : other = k
  · rw [if_pos found, beq_iff_eq.mpr found]
  · rw [if_neg found, beq_eq_false_iff_ne.mpr found]

/-- A key set anew has its new value, and all others have theirs. -/
theorem lookup_setKey (key value : String) (outputs : List (String × String)) (other : String) :
    (setKey key value outputs).lookup other =
      if other = key then some value else outputs.lookup other := by
  induction outputs with
  | nil => exact lookup_cons key value [] other
  | cons entry rest ih =>
    obtain ⟨k, v⟩ := entry
    rw [setKey]
    split
    · rename_i same
      subst same
      rw [lookup_cons, lookup_cons]
      split
      · rfl
      · rfl
    · rename_i differs
      split
      · rw [lookup_cons key value]
      · rw [lookup_cons k v, lookup_cons k v, ih]
        by_cases found : other = key
        · rw [if_neg (found ▸ differs), if_pos found, if_pos found]
        · rw [if_neg found, if_neg found]

theorem mem_setKey {key value : String} {outputs : List (String × String)} {entry : String × String}
    (member : entry ∈ setKey key value outputs) : entry.1 = key ∨ entry ∈ outputs := by
  induction outputs with
  | nil => exact .inl (congrArg Prod.fst (List.mem_singleton.mp member))
  | cons first rest ih =>
    obtain ⟨k, v⟩ := first
    rw [setKey] at member
    split at member
    · rcases List.mem_cons.mp member with rfl | later
      · exact .inl rfl
      · exact .inr (List.mem_cons_of_mem _ later)
    · split at member
      · rcases List.mem_cons.mp member with rfl | later
        · exact .inl rfl
        · exact .inr later
      · rcases List.mem_cons.mp member with rfl | later
        · exact .inr (List.mem_cons_self ..)
        · exact (ih later).imp_right (List.mem_cons_of_mem _)

/-- Ascending keys stay so. -/
theorem ascending_setKey (key value : String) {outputs : List (String × String)}
    (ascending : outputs.Pairwise fun a b => a.1 < b.1) :
    (setKey key value outputs).Pairwise fun a b => a.1 < b.1 := by
  induction outputs with
  | nil => exact List.pairwise_singleton _ _
  | cons first rest ih =>
    obtain ⟨k, v⟩ := first
    obtain ⟨below, ordered⟩ := List.pairwise_cons.mp ascending
    rw [setKey]
    split
    · rename_i same
      exact List.pairwise_cons.mpr ⟨same ▸ below, ordered⟩
    · rename_i differs
      split
      · rename_i less
        refine List.pairwise_cons.mpr ⟨fun entry member => ?_, ascending⟩
        rcases List.mem_cons.mp member with rfl | later
        · exact less
        · exact String.lt_trans less (below entry later)
      · rename_i notLess
        refine List.pairwise_cons.mpr ⟨fun entry member => ?_, ih ordered⟩
        rcases mem_setKey member with same | later
        · -- Neither equal nor before, so behind.
          rw [same]
          exact String.not_le.mp fun before =>
            differs (String.le_antisymm (String.not_lt.mp notLess) before).symm
        · exact below entry later

end Stack

end Perimeter
