/-!
Finite sets, kept as the list of their members in ascending order. Two sets with the same members
are equal (`Ascending.ext_mem`), so a result that depends on a set cannot depend on the order or
the repetitions in which its members were given.
-/

namespace Perimeter

/-- A total order: each value has a rank, and no two values share one. -/
class Ranked (α : Type) where
  rank : α → Nat
  rank_injective : ∀ {a b : α}, rank a = rank b → a = b

open Ranked (rank rank_injective)

/-- A finite set as the ascending list of its members. -/
structure Ascending (α : Type) [Ranked α] where
  toList : List α
  ascending : toList.Pairwise fun a b => rank a < rank b

namespace Ascending

variable {α : Type} [Ranked α]

/-- An ascending list with one more member, unless it is there already. -/
def insertInto (a : α) : List α → List α
  | [] => [a]
  | b :: bs =>
    if rank a < rank b then a :: b :: bs
    else if rank a = rank b then b :: bs
    else b :: insertInto a bs

theorem mem_insertInto {a x : α} {bs : List α} : x ∈ insertInto a bs ↔ x = a ∨ x ∈ bs := by
  induction bs with
  | nil => simp [insertInto]
  | cons b bs ih =>
    rw [insertInto]
    split
    · simp
    · split
      · rename_i same
        have := rank_injective same
        subst this
        simp
      · simp only [List.mem_cons, ih]
        grind

theorem pairwise_insertInto {a : α} {bs : List α}
    (sorted : bs.Pairwise fun a b => rank a < rank b) :
    (insertInto a bs).Pairwise fun a b => rank a < rank b := by
  induction bs with
  | nil => simp [insertInto]
  | cons b bs ih =>
    obtain ⟨below, rest⟩ := List.pairwise_cons.mp sorted
    rw [insertInto]
    split
    · rename_i less
      refine List.pairwise_cons.mpr ⟨fun x member => ?_, sorted⟩
      rcases List.mem_cons.mp member with rfl | member
      · exact less
      · exact Nat.lt_trans less (below x member)
    · split
      · exact sorted
      · rename_i notLess notSame
        refine List.pairwise_cons.mpr ⟨fun x member => ?_, ih rest⟩
        rcases mem_insertInto.mp member with rfl | member
        · omega
        · exact below x member

/-- The set without members. -/
def empty : Ascending α := ⟨[], .nil⟩

instance : EmptyCollection (Ascending α) := ⟨empty⟩
instance : Inhabited (Ascending α) := ⟨empty⟩

/-- The set with one more member. -/
def insert (a : α) (s : Ascending α) : Ascending α :=
  ⟨insertInto a s.toList, pairwise_insertInto s.ascending⟩

/-- The set of the members of a list. -/
def ofList (xs : List α) : Ascending α :=
  xs.foldl (fun s a => s.insert a) empty

/-- Whether a set has no member. -/
def isEmpty (s : Ascending α) : Bool :=
  s.toList.isEmpty

@[simp] theorem toList_empty : (empty : Ascending α).toList = [] := rfl

theorem mem_insert {a x : α} {s : Ascending α} :
    x ∈ (s.insert a).toList ↔ x = a ∨ x ∈ s.toList :=
  mem_insertInto

theorem mem_ofList {x : α} {xs : List α} : x ∈ (ofList xs).toList ↔ x ∈ xs := by
  suffices general : ∀ s : Ascending α,
      x ∈ (xs.foldl (fun s a => s.insert a) s).toList ↔ x ∈ s.toList ∨ x ∈ xs by
    simpa [ofList] using general empty
  induction xs with
  | nil => simp
  | cons a xs ih =>
    intro s
    rw [List.foldl_cons, ih (s.insert a), mem_insert, List.mem_cons]
    grind

theorem eq_of_mem_iff : ∀ {as bs : List α},
    as.Pairwise (fun a b => rank a < rank b) → bs.Pairwise (fun a b => rank a < rank b) →
      (∀ x, x ∈ as ↔ x ∈ bs) → as = bs
  | [], [], _, _, _ => rfl
  | [], b :: bs, _, _, same => absurd ((same b).mpr (by simp)) (by simp)
  | a :: as, [], _, _, same => absurd ((same a).mp (by simp)) (by simp)
  | a :: as, b :: bs, sortedA, sortedB, same => by
    obtain ⟨belowA, restA⟩ := List.pairwise_cons.mp sortedA
    obtain ⟨belowB, restB⟩ := List.pairwise_cons.mp sortedB
    have heads : a = b := by
      rcases List.mem_cons.mp ((same a).mp (by simp)) with h | h
      · exact h
      · rcases List.mem_cons.mp ((same b).mpr (by simp)) with h' | h'
        · exact h'.symm
        · exact absurd (belowA b h') (by have := belowB a h; omega)
    subst heads
    have tails : as = bs := by
      refine eq_of_mem_iff restA restB fun x => ⟨fun h => ?_, fun h => ?_⟩
      · rcases List.mem_cons.mp ((same x).mp (List.mem_cons_of_mem _ h)) with rfl | h'
        · exact absurd (belowA x h) (Nat.lt_irrefl _)
        · exact h'
      · rcases List.mem_cons.mp ((same x).mpr (List.mem_cons_of_mem _ h)) with rfl | h'
        · exact absurd (belowB x h) (Nat.lt_irrefl _)
        · exact h'
    rw [tails]

/-- A set is determined by its members. -/
theorem ext_mem {s t : Ascending α} (same : ∀ x, x ∈ s.toList ↔ x ∈ t.toList) : s = t := by
  cases s with
  | mk as sortedA =>
    cases t with
    | mk bs sortedB =>
      congr
      exact eq_of_mem_iff sortedA sortedB same

instance [DecidableEq α] : DecidableEq (Ascending α) := fun s t =>
  decidable_of_iff (s.toList = t.toList) ⟨fun h => by cases s; cases t; congr, congrArg _⟩

end Ascending

end Perimeter
