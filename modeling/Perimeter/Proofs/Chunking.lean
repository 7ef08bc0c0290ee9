import Mathlib.Algebra.Order.Floor.Semiring
import Mathlib.Data.Rat.Floor
import Perimeter.Proofs.Batch

/-!
Cutting a list into pieces of one size, of which only the last may be shorter (`Cuts`). Batches are
such a cut (`cuts_chunks`) and the only one (`Cuts.eq_chunks`), and their number is the length over
the size, rounded up, in 64-bit arithmetic as among all numbers (`batches_exact`).
-/

namespace Perimeter.Batch

variable {α : Type}

/-- The pieces of a list: in order they are the list, none is empty, and all are of the given size
but the last, which may be shorter. -/
structure Cuts (size : Nat) (xs : List α) (pieces : List (List α)) : Prop where
  whole : pieces.flatten = xs
  filled : ∀ piece ∈ pieces, piece ≠ []
  full : ∀ piece ∈ pieces.dropLast, piece.length = size
  bounded : ∀ last, pieces.getLast? = some last → last.length ≤ size

/-! ### One cut -/

theorem chunks_eq_nil_iff {size : Nat} (positive : 0 < size) (xs : List α) :
    chunks size positive xs = [] ↔ xs = [] := by
  cases xs with
  | nil => simp [chunks]
  | cons x xs => simp [chunks]

/-- A chunk that is not the last one is full. -/
theorem length_of_mem_dropLast_chunks {size : Nat} (positive : 0 < size) {xs piece : List α}
    (member : piece ∈ (chunks size positive xs).dropLast) : piece.length = size := by
  induction xs using chunks.induct size positive with
  | case1 => simp [chunks] at member
  | case2 x xs ih =>
    rw [chunks] at member
    by_cases rest : (x :: xs).drop size = []
    · rw [rest, (chunks_eq_nil_iff positive []).mpr rfl] at member
      cases member
    · have more : chunks size positive ((x :: xs).drop size) ≠ [] :=
        mt (chunks_eq_nil_iff positive _).mp rest
      rw [List.dropLast_cons_of_ne_nil more] at member
      rcases List.mem_cons.mp member with rfl | later
      · have longer : size < (x :: xs).length := by
          rwa [List.drop_eq_nil_iff, Nat.not_le] at rest
        rw [List.length_take, Nat.min_eq_left (Nat.le_of_lt longer)]
      · exact ih later

theorem cuts_chunks {size : Nat} (positive : 0 < size) (xs : List α) :
    Cuts size xs (chunks size positive xs) := by
  refine ⟨flatten_chunks size positive xs, ?_, ?_, ?_⟩
  · intro piece member
    exact List.length_pos_iff.mp (length_of_mem_chunks positive member).1
  · intro piece member
    exact length_of_mem_dropLast_chunks positive member
  · intro last final
    exact (length_of_mem_chunks positive (List.mem_of_getLast? final)).2

/-! ### No other cut -/

/-- A full piece in front of a list is its first chunk. -/
theorem chunks_append {size : Nat} (positive : 0 < size) {piece : List α}
    (full : piece.length = size) (rest : List α) :
    chunks size positive (piece ++ rest) = piece :: chunks size positive rest := by
  cases piece with
  | nil =>
    rw [List.length_nil] at full
    omega
  | cons x xs =>
    rw [List.cons_append, chunks, ← List.cons_append, List.take_left' full, List.drop_left' full]

/-- A short list is its only chunk. -/
theorem chunks_of_length_le {size : Nat} (positive : 0 < size) {piece : List α}
    (filled : piece ≠ []) (short : piece.length ≤ size) : chunks size positive piece = [piece] := by
  cases piece with
  | nil => exact absurd rfl filled
  | cons x xs =>
    rw [chunks, List.take_of_length_le short, List.drop_of_length_le short,
      (chunks_eq_nil_iff positive []).mpr rfl]

/-- The pieces behind the first one are a cut of what stands behind it. -/
theorem Cuts.tail {size : Nat} {piece : List α} {pieces : List (List α)} {xs : List α}
    (more : pieces ≠ []) (cuts : Cuts size xs (piece :: pieces)) :
    piece.length = size ∧ xs = piece ++ pieces.flatten ∧ Cuts size pieces.flatten pieces := by
  obtain ⟨whole, filled, full, bounded⟩ := cuts
  rw [List.dropLast_cons_of_ne_nil more] at full
  refine ⟨full piece (List.mem_cons_self ..), whole.symm, rfl, ?_, ?_, ?_⟩
  · exact fun other member => filled other (List.mem_cons_of_mem _ member)
  · exact fun other member => full other (List.mem_cons_of_mem _ member)
  · intro last final
    exact bounded last (by rw [List.getLast?_cons, final]; rfl)

theorem Cuts.eq_chunks {size : Nat} (positive : 0 < size) {xs : List α} {pieces : List (List α)}
    (cuts : Cuts size xs pieces) : pieces = chunks size positive xs := by
  induction pieces generalizing xs with
  | nil =>
    rw [← cuts.whole, List.flatten_nil, chunks]
  | cons piece pieces ih =>
    by_cases more : pieces = []
    · subst more
      have single : xs = piece := by rw [← cuts.whole, List.flatten_singleton]
      rw [single, chunks_of_length_le positive (cuts.filled piece (List.mem_singleton_self _))
        (cuts.bounded piece rfl)]
    · obtain ⟨full, rfl, rest⟩ := cuts.tail more
      rw [chunks_append positive full, ← ih rest]

/-! ### The number of pieces -/

/-- A number is large enough for the batches exactly if so many full ones hold the list. -/
theorem count_le_iff (length size bound : Nat) :
    count length size ≤ bound ↔ length ≤ bound * max size 1 := by
  have positive : 0 < max size 1 := by omega
  have same : count length size = count length (max size 1) := by
    simp only [count, Nat.max_assoc, Nat.max_self]
  rw [same, count_eq positive, Nat.div_le_iff_le_mul_add_pred positive, Nat.mul_comm]
  omega

theorem count_eq_ceil (length size : Nat) :
    count length size = ⌈(length : ℚ) / (max size 1 : Nat)⌉₊ := by
  have positive : (0 : ℚ) < (max size 1 : Nat) := by
    rw [Nat.cast_pos]
    omega
  refine eq_of_forall_ge_iff fun bound => ?_
  rw [Nat.ceil_le, div_le_iff₀ positive, ← Nat.cast_mul, Nat.cast_le, count_le_iff]

private theorem toNat_max_one (size : UInt64) : (max size 1).toNat = max size.toNat 1 := by
  have chosen : max size 1 = if size ≤ 1 then 1 else size := rfl
  rw [chosen]
  split
  · rename_i small
    exact (Nat.max_eq_right (UInt64.le_iff_toNat_le.mp small)).symm
  · rename_i large
    rw [UInt64.le_iff_toNat_le, UInt64.toNat_one] at large
    omega

/-- Where something is left over there is room for one more than the quotient. -/
private theorem quotient_lt {length size : Nat} (fits : length < 2 ^ 64)
    (left : length % size ≠ 0) : length / size + 1 < 2 ^ 64 := by
  rcases Nat.eq_zero_or_pos size with rfl | positive
  · rw [Nat.div_zero]
    decide
  · have whole := Nat.div_add_mod length size
    have small : length / size ≤ size * (length / size) := Nat.le_mul_of_pos_left _ positive
    omega

theorem toNat_count64 (length size : UInt64) :
    (count64 length size).toNat = count length.toNat size.toNat := by
  have remainder : length % max size 1 = 0 ↔ length.toNat % max size.toNat 1 = 0 := by
    rw [← UInt64.toNat_inj, UInt64.toNat_mod, toNat_max_one, UInt64.toNat_zero]
  have quotient : (length / max size 1).toNat = length.toNat / max size.toNat 1 := by
    rw [UInt64.toNat_div, toNat_max_one]
  simp only [count64, count, remainder]
  split
  · exact quotient
  · rename_i left
    rw [UInt64.toNat_add, quotient, UInt64.toNat_one,
      Nat.mod_eq_of_lt (quotient_lt length.toNat_lt left)]

/-- Batches are exact. With a size of at least one, a list has batches, they are its only cut into
pieces of that size, and `count` tells how many they are; a size of zero is refused. In 64-bit
arithmetic the count is the length over the size, rounded up, for all lengths and sizes, and adding
one to a quotient never leaves the range. -/
theorem batches_exact (α : Type) :
    (∀ (xs : List α) (size : Nat), 0 < size → ∃ batches, ofList xs size = .ok batches ∧
      (∀ pieces, Cuts size xs pieces ↔ pieces = batches) ∧
      batches.length = count xs.length size) ∧
    (∀ xs : List α, ofList xs 0 = .error sizeZero) ∧
    ∀ length size : UInt64,
      (length % max size 1 ≠ 0 → (length / max size 1).toNat + 1 < 2 ^ 64) ∧
      (count64 length size).toNat = ⌈(length.toNat : ℚ) / (max size.toNat 1 : Nat)⌉₊ ∧
      (count64 length size).toNat = count length.toNat size.toNat := by
  refine ⟨?_, fun xs => rfl, ?_⟩
  · intro xs size positive
    refine ⟨chunks size positive xs, dif_pos positive, fun pieces => ?_, length_chunks ..⟩
    constructor
    · exact fun cuts => cuts.eq_chunks positive
    · rintro rfl
      exact cuts_chunks positive xs
  · intro length size
    have same := toNat_count64 length size
    refine ⟨fun left => ?_, same.trans (count_eq_ceil ..), same⟩
    rw [ne_eq, ← UInt64.toNat_inj, UInt64.toNat_mod, UInt64.toNat_zero] at left
    rw [UInt64.toNat_div]
    exact quotient_lt length.toNat_lt left

/-- Eight values, five to a batch, and as many values as 64 bits can count, two to a batch. -/
theorem batches_exact_remainder :
    ofList [1, 2, 3, 4, 5, 6, 7, 8] 5 = .ok [[1, 2, 3, 4, 5], [6, 7, 8]] ∧
    (∀ pieces, Cuts 5 [1, 2, 3, 4, 5, 6, 7, 8] pieces ↔ pieces = [[1, 2, 3, 4, 5], [6, 7, 8]]) ∧
    (count64 0xFFFFFFFFFFFFFFFF 2).toNat = 0x8000000000000000 := by
  obtain ⟨cut, _, wide⟩ := batches_exact Nat
  obtain ⟨batches, made, only, _⟩ := cut [1, 2, 3, 4, 5, 6, 7, 8] 5 (by decide)
  have same : [[1, 2, 3, 4, 5], [6, 7, 8]] = batches :=
    (only _).mp ⟨rfl, by decide, by decide, by simp⟩
  rw [← same] at made only
  exact ⟨made, only, (wide 0xFFFFFFFFFFFFFFFF 2).2.2⟩

end Perimeter.Batch
