import Perimeter.Proofs.Stack

/-!
Stacks under operations. What each operation does to a stack is said by `Operation.Does`; several
resources are added up to the first one whose name is taken (`LongestNew`). A stack that has started
empty is told by its history: its resources are those that were ever added, each found under its name
from then on, and its dependencies and outputs are those named by the operations (`run_exact`).
-/

namespace Perimeter

namespace Stack

open Resource (names)

/-! ### New names -/

/-- Resources whose names differ from each other and from those taken. -/
def AllNew (taken : List String) (rs : List Resource) : Prop :=
  (names rs).Nodup ∧ taken.Disjoint (names rs)

/-- The longest part at the front of a list of resources that has new names only. -/
structure LongestNew (taken : List String) (rs front : List Resource) : Prop where
  within : front <+: rs
  allNew : AllNew taken front
  longest : ∀ other, other <+: rs → AllNew taken other → other <+: front

theorem allNew_nil (taken : List String) : AllNew taken [] :=
  ⟨.nil, List.disjoint_nil_right _⟩

theorem allNew_cons {taken : List String} {r : Resource} {rs : List Resource} :
    AllNew taken (r :: rs) ↔ r.id.text ∉ taken ∧ AllNew (taken ++ [r.id.text]) rs := by
  simp only [AllNew, names, List.map_cons, List.nodup_cons, List.disjoint_cons_right,
    List.disjoint_append_left, List.singleton_disjoint]
  constructor
  · rintro ⟨⟨other, distinct⟩, new, apart⟩
    exact ⟨new, distinct, apart, other⟩
  · rintro ⟨new, distinct, apart, other⟩
    exact ⟨⟨other, distinct⟩, new, apart⟩

/-- The resources at the front of a list that have new names, up to the first one that has none. -/
def newcomers (taken : List String) : List Resource → List Resource
  | [] => []
  | r :: rs =>
    if r.id.text ∈ taken then [] else r :: newcomers (taken ++ [r.id.text]) rs

theorem longestNew_newcomers (taken : List String) (rs : List Resource) :
    LongestNew taken rs (newcomers taken rs) := by
  induction rs generalizing taken with
  | nil => exact ⟨List.prefix_rfl, allNew_nil taken, fun other front _ => front⟩
  | cons r rs ih =>
    rw [newcomers]
    split
    · rename_i known
      refine ⟨List.nil_prefix, allNew_nil taken, fun other front new => ?_⟩
      rcases List.prefix_cons_iff.mp front with rfl | ⟨rest, rfl, _⟩
      · exact List.prefix_rfl
      · exact absurd known (allNew_cons.mp new).1
    · rename_i new
      obtain ⟨within, allNew, longest⟩ := ih (taken ++ [r.id.text])
      refine ⟨List.cons_prefix_cons.mpr ⟨rfl, within⟩, allNew_cons.mpr ⟨new, allNew⟩, ?_⟩
      intro other front fresh
      rcases List.prefix_cons_iff.mp front with rfl | ⟨rest, rfl, behind⟩
      · exact List.nil_prefix
      · exact List.cons_prefix_cons.mpr ⟨rfl, longest rest behind (allNew_cons.mp fresh).2⟩

/-! ### Operations -/

/-- What can be done to a stack. -/
inductive Operation where
  | add (r : Resource)
  | extend (rs : List Resource)
  | dependOn (other : String)
  | output (key value : String)

namespace Operation

/-- The answer of an operation and the stack after it. -/
def apply (s : Stack) : Operation → Except Error Unit × Stack
  | add r =>
    match s.add r with
    | .ok t => (.ok (), t)
    | .error e => (.error e, s)
  | extend rs => s.extend rs
  | dependOn other => (.ok (), s.dependOn other)
  | output key value => (.ok (), s.output key value)

/-- What an operation answers and what it makes of a stack. -/
def Does (s : Stack) (answer : Except Error Unit) (t : Stack) : Operation → Prop
  | add r =>
    if r.id.text ∈ names s.resources then answer = .error (s.nameTaken r.id) ∧ t = s
    else answer = .ok () ∧ t = s.push [r]
  | extend rs => ∃ front, LongestNew (names s.resources) rs front ∧ t = s.push front ∧
      (answer = .ok () ↔ front = rs) ∧
      ∀ e, answer = .error e → ∃ r rest, rs = front ++ r :: rest ∧ e = s.nameTaken r.id
  | dependOn other => answer = .ok () ∧ t = { s with
      dependsOn := if other ∈ s.dependsOn then s.dependsOn else s.dependsOn ++ [other] }
  | output key value => answer = .ok () ∧ ∃ outputs, t = { s with outputs } ∧
      ∀ k, outputs.lookup k = if k = key then some value else s.outputs.lookup k

end Operation

theorem add_of_taken {s : Stack} {r : Resource} (taken : r.id.text ∈ names s.resources) :
    s.add r = .error (s.nameTaken r.id) := by
  rw [add]
  cases found : s.find? r.id.text with
  | none => exact absurd taken ((find?_eq_none_iff s _).mp found)
  | some other => rfl

theorem add_of_new {s : Stack} {r : Resource} (new : r.id.text ∉ names s.resources) :
    s.add r = .ok (s.push [r]) := add_eq_ok_iff.mpr ⟨new, rfl⟩

theorem names_push (s : Stack) (rs : List Resource) :
    names (s.push rs).resources = names s.resources ++ names rs := List.map_append

theorem extend_of_taken {s : Stack} {r : Resource} (taken : r.id.text ∈ names s.resources)
    (rs : List Resource) : s.extend (r :: rs) = (.error (s.nameTaken r.id), s) := by
  rw [extend, add_of_taken taken]

theorem extend_of_new {s : Stack} {r : Resource} (new : r.id.text ∉ names s.resources)
    (rs : List Resource) : s.extend (r :: rs) = (s.push [r]).extend rs := by
  rw [extend, add_of_new new]

theorem extend_eq (s : Stack) (rs : List Resource) :
    (s.extend rs).2 = s.push (newcomers (names s.resources) rs) := by
  induction rs generalizing s with
  | nil => rw [extend, newcomers, push, List.append_nil]
  | cons r rs ih =>
    rw [newcomers]
    split
    · rename_i taken
      rw [extend_of_taken taken, push, List.append_nil]
    · rename_i new
      rw [extend_of_new new, ih, names_push, push_push]
      rfl

/-- The answer tells whether there is a resource behind those that were added. -/
theorem extend_answer (s : Stack) (rs : List Resource) :
    ((s.extend rs).1 = .ok () ∧ newcomers (names s.resources) rs = rs) ∨
      ∃ r rest, rs = newcomers (names s.resources) rs ++ r :: rest ∧
        (s.extend rs).1 = .error (s.nameTaken r.id) := by
  induction rs generalizing s with
  | nil => exact .inl ⟨rfl, rfl⟩
  | cons r rs ih =>
    rw [newcomers]
    split
    · rename_i taken
      rw [extend_of_taken taken]
      exact .inr ⟨r, rs, rfl, rfl⟩
    · rename_i new
      rw [extend_of_new new]
      have behind := ih (s.push [r])
      rw [names_push] at behind
      rcases behind with ⟨answer, whole⟩ | ⟨other, rest, split, answer⟩
      · exact .inl ⟨answer, congrArg (r :: ·) whole⟩
      · exact .inr ⟨other, rest, congrArg (r :: ·) split, answer⟩

theorem does_extend (s : Stack) (rs : List Resource) :
    (Operation.extend rs).Does s (s.extend rs).1 (s.extend rs).2 := by
  refine ⟨_, longestNew_newcomers _ rs, extend_eq s rs, ?_⟩
  rcases extend_answer s rs with ⟨answer, whole⟩ | ⟨r, rest, split, answer⟩
  · refine ⟨⟨fun _ => whole, fun _ => answer⟩, fun e failed => ?_⟩
    cases answer.symm.trans failed
  · refine ⟨⟨fun ok => ?_, fun whole => ?_⟩, fun e failed => ?_⟩
    · cases answer.symm.trans ok
    · rw [whole] at split
      simp at split
    · cases answer.symm.trans failed
      exact ⟨r, rest, split, rfl⟩

theorem does_apply (s : Stack) (op : Operation) : op.Does s (op.apply s).1 (op.apply s).2 := by
  cases op with
  | add r =>
    rw [Operation.Does, Operation.apply]
    split
    · rename_i taken
      rw [add_of_taken taken]
      exact ⟨rfl, rfl⟩
    · rename_i new
      rw [add_of_new new]
      exact ⟨rfl, rfl⟩
  | extend rs => exact does_extend s rs
  | dependOn other =>
    refine ⟨rfl, ?_⟩
    simp only [Operation.apply, Stack.dependOn, List.contains_iff_mem]
    split
    · rfl
    · rfl
  | output key value => exact ⟨rfl, _, rfl, lookup_setKey key value s.outputs⟩

/-! ### Runs -/

/-- The stack after operations in order, whether they succeed or not. -/
def run (s : Stack) (ops : List Operation) : Stack := ops.foldl (fun s op => (op.apply s).2) s

namespace Operation

/-- The resources that an operation is given. -/
def offered : Operation → List Resource
  | add r => [r]
  | extend rs => rs
  | dependOn _ => []
  | output _ _ => []

/-- The stack that an operation waits for. -/
def awaited? : Operation → Option String
  | dependOn other => some other
  | _ => none

/-- The key and the value that an operation writes. -/
def written? : Operation → Option (String × String)
  | output key value => some (key, value)
  | _ => none

/-- What is waited for after an operation. -/
def waits (dependsOn : List String) : Operation → List String
  | dependOn other => if other ∈ dependsOn then dependsOn else dependsOn ++ [other]
  | _ => dependsOn

/-- The outputs after an operation. -/
def offers (outputs : List (String × String)) : Operation → List (String × String)
  | output key value => setKey key value outputs
  | _ => outputs

/-- A dependency that is named again is the one that is there. -/
theorem waits_eq (ops : List Operation) (op : Operation) :
    op.waits (ops.filterMap awaited?).eraseDups = ((ops ++ [op]).filterMap awaited?).eraseDups := by
  rw [List.filterMap_append, List.eraseDups_append]
  cases op with
  | dependOn other =>
    have named : [dependOn other].filterMap awaited? = [other] := rfl
    rw [named, waits, List.removeAll]
    by_cases known : other ∈ ops.filterMap awaited?
    · rw [if_pos (List.mem_eraseDups.mpr known), List.filter_cons_of_neg (by simpa using known)]
      exact (List.append_nil _).symm
    · rw [if_neg (mt List.mem_eraseDups.mp known), List.filter_cons_of_pos (by simpa using known)]
      rfl
  | _ => exact (List.append_nil _).symm

theorem nodup_waits {dependsOn : List String} (once : dependsOn.Nodup) (op : Operation) :
    (op.waits dependsOn).Nodup := by
  unfold waits
  split
  · split
    · exact once
    · rename_i new
      exact once.append (List.nodup_singleton _) (List.disjoint_singleton.mpr new)
  · exact once

theorem ascending_offers {outputs : List (String × String)}
    (ascending : outputs.Pairwise fun a b => a.1 < b.1) (op : Operation) :
    (op.offers outputs).Pairwise fun a b => a.1 < b.1 := by
  unfold offers
  split
  · exact ascending_setKey _ _ ascending
  · exact ascending

/-- The value written last hides the earlier ones of its key. -/
theorem lookup_offers {ops : List Operation} {outputs : List (String × String)}
    (last : ∀ key, outputs.lookup key = (ops.filterMap written?).reverse.lookup key)
    (op : Operation) (key : String) :
    (op.offers outputs).lookup key = ((ops ++ [op]).filterMap written?).reverse.lookup key := by
  rw [List.filterMap_append, List.reverse_append, List.lookup_append, ← last]
  cases op with
  | output k value =>
    have written : ([output k value].filterMap written?).reverse = [(k, value)] := rfl
    rw [written, offers, lookup_setKey, lookup_cons]
    split
    · rfl
    · rfl
  | _ => rfl

end Operation

/-- The resources that operations add, in order, where some names are taken before: of those that
each operation is given the longest part with new names. -/
def added (taken : List String) : List Operation → List Resource
  | [] => []
  | op :: ops =>
    newcomers taken op.offered ++ added (taken ++ names (newcomers taken op.offered)) ops

/-- A stack that started empty is told by its operations. -/
structure Told (name region : String) (ops : List Operation) (s : Stack) : Prop where
  name : s.name = name
  region : s.region = region
  distinct : (names s.resources).Nodup
  resources : s.resources = added [] ops
  once : s.dependsOn.Nodup
  dependsOn : s.dependsOn = (ops.filterMap Operation.awaited?).eraseDups
  ascending : s.outputs.Pairwise fun a b => a.1 < b.1
  outputs : ∀ key, s.outputs.lookup key = (ops.filterMap Operation.written?).reverse.lookup key

theorem added_append (taken : List String) (ops more : List Operation) :
    added taken (ops ++ more) =
      added taken ops ++ added (taken ++ names (added taken ops)) more := by
  induction ops generalizing taken with
  | nil => rw [List.nil_append, added, List.nil_append, names, List.map_nil, List.append_nil]
  | cons op ops ih =>
    rw [List.cons_append, added, ih, added, Resource.names_append, List.append_assoc,
      List.append_assoc]

/-- A stack after an operation: each part is what it was unless the operation is about it. -/
theorem apply_eq (s : Stack) (op : Operation) : (op.apply s).2 = { s with
    resources := s.resources ++ newcomers (names s.resources) op.offered
    dependsOn := op.waits s.dependsOn
    outputs := op.offers s.outputs } := by
  have done := does_apply s op
  cases op with
  | add r =>
    rw [Operation.Does] at done
    rw [Operation.offered, newcomers]
    split at done
    · rename_i taken
      rw [done.2, if_pos taken, List.append_nil]
      rfl
    · rename_i new
      rw [done.2, if_neg new]
      rfl
  | extend rs => exact extend_eq s rs
  | dependOn other =>
    rw [done.2, Operation.offered, newcomers, List.append_nil]
    rfl
  | output key value =>
    rw [Operation.offered, newcomers, List.append_nil]
    rfl

theorem Told.step {name region : String} {ops : List Operation} {s : Stack}
    (told : Told name region ops s) (op : Operation) :
    Told name region (ops ++ [op]) (op.apply s).2 := by
  have fresh := (longestNew_newcomers (names s.resources) op.offered).allNew
  rw [apply_eq]
  refine ⟨told.name, told.region, ?_, ?_, ?_, ?_, ?_, ?_⟩
  · rw [Resource.names_append]
    exact told.distinct.append fresh.1 fresh.2
  · rw [added_append, List.nil_append, ← told.resources, added, added, List.append_nil]
  · exact op.nodup_waits told.once
  · rw [told.dependsOn]
    exact op.waits_eq ops
  · exact op.ascending_offers told.ascending
  · exact op.lookup_offers told.outputs

theorem Told.run {name region : String} {before : List Operation} {s : Stack}
    (told : Told name region before s) (ops : List Operation) :
    Told name region (before ++ ops) (s.run ops) := by
  induction ops generalizing before s with
  | nil => rwa [List.append_nil]
  | cons op ops ih =>
    have behind := ih (told.step op)
    rwa [List.append_assoc] at behind

theorem told_empty (name region : String) : Told name region [] (empty name region) :=
  ⟨rfl, rfl, .nil, rfl, .nil, rfl, .nil, fun _ => rfl⟩

theorem run_append (s : Stack) (ops more : List Operation) :
    s.run (ops ++ more) = (s.run ops).run more := List.foldl_append

/-- Stacks keep what they are given. After any operations on an empty stack, its names differ; its
resources are the ones that were added, in order, and each is found under its name after whatever
follows, while no other name leads anywhere; its dependencies are those named, without repetition and
in the order of their first mention; and each key of its outputs has the value written last. A single
operation, on any stack, does what `Operation.Does` says of its kind and leaves the other parts alone:
adding fails exactly if the name is taken, and several resources are added up to the first one whose
name is. -/
theorem run_exact (name region : String) (ops : List Operation) :
    Told name region ops ((empty name region).run ops) ∧
    (∀ r ∈ added [] ops, ∀ more,
      ((empty name region).run (ops ++ more)).find? r.id.text = some r) ∧
    (∀ id, ((empty name region).run ops).find? id = none ↔ id ∉ names (added [] ops)) ∧
    ∀ (s : Stack) (op : Operation), op.Does s (op.apply s).1 (op.apply s).2 := by
  have told := (told_empty name region).run ops
  rw [List.nil_append] at told
  refine ⟨told, ?_, ?_, does_apply⟩
  · intro r member more
    have later := told.run more
    rw [run_append]
    refine find?_of_nodup later.distinct ?_
    rw [later.resources, added_append]
    exact List.mem_append_left _ member
  · intro id
    rw [find?_eq_none_iff, told.resources]

/-- The second of three resources is refused because its name is taken, so that the third one is not
added either; what is named or written twice is there once. -/
theorem run_exact_refused :
    let lookup (id : LogicalId) (list : String) := Resource.addressListLookup ⟨id, list⟩
    let ops : List Operation := [.add (lookup (.literal "A") "first"), .dependOn "Global",
      .extend [lookup (.literal "B") "second", lookup (.literal "A") "third",
        lookup (.literal "C") "fourth"],
      .output "Url" "old", .dependOn "Global", .output "Url" "new"]
    (∀ more, ((empty "Edge" "us-west-2").run (ops ++ more)).find? "A" =
        some (lookup (.literal "A") "first")) ∧
      ((empty "Edge" "us-west-2").run ops).find? "C" = none ∧
      ((empty "Edge" "us-west-2").run ops).dependsOn = ["Global"] ∧
      ((empty "Edge" "us-west-2").run ops).outputs.lookup "Url" = some "new" := by
  intro lookup ops
  obtain ⟨told, kept, missing, _⟩ := run_exact "Edge" "us-west-2" ops
  have history : added [] ops = [lookup (.literal "A") "first", lookup (.literal "B") "second"] := rfl
  rw [history] at kept missing
  refine ⟨kept _ (List.mem_cons_self ..), (missing "C").mpr (by decide), ?_, ?_⟩
  · exact told.dependsOn
  · exact told.outputs "Url"

end Stack

end Perimeter
