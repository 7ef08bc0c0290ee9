import Perimeter.Listener.Batch

/-!
Batches lose nothing (`flatten_chunks`), hold at least one and at most `size` elements
(`length_of_mem_chunks`), and are as many as `count` says (`length_chunks`).
-/

namespace Perimeter.Batch

variable {α : Type}

theorem flatten_chunks (size : Nat) (positive : 0 < size) (xs : List α) :
    (chunks size positive xs).flatten = xs := by
  induction xs using chunks.induct size positive with
  | case1 => simp [chunks]
  | case2 x xs ih =>
    rw [chunks, List.flatten_cons, ih]
    exact List.take_append_drop size (x :: xs)

theorem length_of_mem_chunks {size : Nat} (positive : 0 < size) {xs batch : List α}
    (member : batch ∈ chunks size positive xs) : 0 < batch.length ∧ batch.length ≤ size := by
  induction xs using chunks.induct size positive with
  | case1 => simp [chunks] at member
  | case2 x xs ih =>
    rw [chunks] at member
    rcases List.mem_cons.mp member with rfl | later
    · simp only [List.length_take, List.length_cons]
      omega
    · exact ih later

private theorem count_add {length size : Nat} (positive : 0 < size) :
    count (length + size) size = count length size + 1 := by
  have atLeastOne : max size 1 = size := by omega
  simp only [count, atLeastOne, Nat.add_div_right length positive, Nat.add_mod_right]
  split
  · rfl
  · rfl

private theorem count_small {length size : Nat} (filled : 0 < length) (few : length ≤ size) :
    count length size = 1 := by
  have atLeastOne : max size 1 = size := by omega
  simp only [count, atLeastOne]
  rcases Nat.lt_or_eq_of_le few with less | rfl
  · rw [Nat.mod_eq_of_lt less, Nat.div_eq_of_lt less, if_neg (by omega)]
  · rw [Nat.mod_self, if_pos rfl, Nat.div_self filled]

theorem length_chunks (size : Nat) (positive : 0 < size) (xs : List α) :
    (chunks size positive xs).length = count xs.length size := by
  induction xs using chunks.induct size positive with
  | case1 => simp [chunks, count]
  | case2 x xs ih =>
    rw [chunks, List.length_cons, ih, List.length_drop]
    by_cases few : (x :: xs).length ≤ size
    · rw [Nat.sub_eq_zero_of_le few, count_small (by simp) few]
      simp [count]
    · have split : (x :: xs).length = (x :: xs).length - size + size := by omega
      rw [split, count_add positive, Nat.add_sub_cancel]

/-- The number of batches is a quotient, rounded up. -/
theorem count_eq {length size : Nat} (positive : 0 < size) :
    count length size = (length + size - 1) / size := by
  have atLeastOne : max size 1 = size := by omega
  have whole := Nat.div_add_mod length size
  have below := Nat.mod_lt length positive
  simp only [count, atLeastOne]
  split
  · have filled : length + size - 1 = size * (length / size) + (size - 1) := by omega
    have none : (size - 1) / size = 0 := Nat.div_eq_of_lt (by omega)
    rw [filled, Nat.mul_add_div positive, none, Nat.add_zero]
  · have started : length + size - 1 = size * (length / size + 1) + (length % size - 1) := by
      rw [Nat.mul_add]
      omega
    have none : (length % size - 1) / size = 0 := Nat.div_eq_of_lt (by omega)
    rw [started, Nat.mul_add_div positive, none, Nat.add_zero]

/-- The batches that a condition takes. -/
def batches (xs : List α) : List (List α) := chunks maxValues (by decide) xs

theorem ofList_maxValues (xs : List α) : ofList xs maxValues = .ok (batches xs) := by
  rw [ofList, dif_pos (by decide)]
  rfl

theorem flatten_batches (xs : List α) : (batches xs).flatten = xs := flatten_chunks ..

theorem length_batches (xs : List α) : (batches xs).length = count xs.length maxValues :=
  length_chunks ..

end Perimeter.Batch
