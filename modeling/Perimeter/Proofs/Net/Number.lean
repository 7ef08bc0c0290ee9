import Mathlib.Algebra.Group.Nat.Defs
import Perimeter.Net.Reader

/-!
Numbers in addresses: whatever follows it, a number is read back from its digits
(`Reader.number_toDigits`).
-/

namespace Perimeter.Reader

variable {base : Nat}

/-- A text does not go on with a digit. -/
def NoDigit (base : Nat) (cs : List Char) : Prop := ∀ c, cs.head? = some c → digit? base c = none

theorem noDigit_cons {c : Char} (other : digit? base c = none) (cs : List Char) :
    NoDigit base (c :: cs) := by
  intro d first
  cases first
  exact other

theorem digits_of_noDigit {cs : List Char} (stop : NoDigit base cs) : digits base cs = ([], cs) := by
  cases cs with
  | nil => rfl
  | cons c cs =>
    rw [digits, stop c rfl]

theorem digit?_digitChar (known : base = 10 ∨ base = 16) {d : Nat} (small : d < base) :
    digit? base (Nat.digitChar d) = some d := by
  have ten : ∀ d : Fin 10, digit? 10 (Nat.digitChar d) = some d.val := by decide
  have sixteen : ∀ d : Fin 16, digit? 16 (Nat.digitChar d) = some d.val := by decide
  rcases known with rfl | rfl
  · exact ten ⟨d, small⟩
  · exact sixteen ⟨d, small⟩

theorem digits_append (known : base = 10 ∨ base = 16) {ds : List Nat} (small : ∀ d ∈ ds, d < base)
    {rest : List Char} (stop : NoDigit base rest) :
    digits base (ds.map Nat.digitChar ++ rest) = (ds, rest) := by
  induction ds with
  | nil => exact digits_of_noDigit stop
  | cons d ds ih =>
    have here := digit?_digitChar known (small d (List.mem_cons_self ..))
    have later := ih fun d member => small d (List.mem_cons_of_mem _ member)
    rw [List.map_cons, List.cons_append, digits, here, later]
    rfl

theorem value_append (ds : List Nat) (d : Nat) : value base (ds ++ [d]) = value base ds * base + d := by
  rw [value, value, List.foldl_append]
  rfl

/-- The digits of a number, the highest one first, which is zero only if it is the only one. -/
structure Writes (base n : Nat) (ds : List Nat) : Prop where
  text : Nat.toDigits base n = ds.map Nat.digitChar
  small : ∀ d ∈ ds, d < base
  value : value base ds = n
  plain : ds.head? = some 0 → ds.length = 1

theorem exists_writes (two : 1 < base) (n : Nat) : ∃ ds, Writes base n ds := by
  induction n using Nat.strongRecOn with
  | ind n ih =>
    by_cases single : n < base
    · refine ⟨[n], ?_, ?_, ?_, fun _ => rfl⟩
      · rw [Nat.toDigits_of_lt_base single]
        rfl
      · intro d member
        rwa [List.mem_singleton.mp member]
      · simp [Reader.value]
    · -- All digits but the last one are those of the quotient.
      have positive : 0 < n / base := Nat.div_pos (Nat.le_of_not_lt single) (by omega)
      have last : n % base < base := Nat.mod_lt n (by omega)
      obtain ⟨ds, text, small, value, plain⟩ := ih (n / base) (Nat.div_lt_self (by omega) two)
      have filled : ds ≠ [] := by
        rintro rfl
        exact Nat.toDigits_ne_nil text
      refine ⟨ds ++ [n % base], ?_, ?_, ?_, ?_⟩
      · have split := Nat.toDigits_append_toDigits two positive last
        rw [Nat.div_add_mod] at split
        rw [← split, text, Nat.toDigits_of_lt_base last, List.map_append]
        rfl
      · intro d member
        rcases List.mem_append.mp member with earlier | same
        · exact small d earlier
        · rwa [List.mem_singleton.mp same]
      · rw [value_append, value, Nat.mul_comm, Nat.div_add_mod]
      · intro zero
        cases ds with
        | nil => exact absurd rfl filled
        | cons d ds =>
          have first : d = 0 := by simpa using zero
          have alone : ds = [] := by simpa [first] using plain
          rw [first, alone] at value
          simp only [Reader.value, List.foldl_cons, List.foldl_nil] at value
          omega

theorem mem_toDigits (two : 1 < base) {n : Nat} {c : Char} (member : c ∈ Nat.toDigits base n) :
    ∃ d < base, Nat.digitChar d = c := by
  obtain ⟨ds, text, small, _⟩ := exists_writes two n
  rw [text] at member
  obtain ⟨d, digit, same⟩ := List.mem_map.mp member
  exact ⟨d, small d digit, same⟩

/-- A number is read back from its digits. -/
theorem number_toDigits (known : base = 10 ∨ base = 16) {width bound n : Nat} (below : n < bound)
    (short : n < base ^ width) (wide : 0 < width) (leadingZeros : Bool) {rest : List Char}
    (stop : NoDigit base rest) :
    number base width bound leadingZeros (Nat.toDigits base n ++ rest) = some (n, rest) := by
  have two : 1 < base := by omega
  obtain ⟨ds, text, small, value, plain⟩ := exists_writes two n
  have filled : ds ≠ [] := by
    rintro rfl
    exact Nat.toDigits_ne_nil text
  have length : ds.length ≤ width := by
    have fits := (Nat.length_toDigits_le_iff two wide).mpr short
    rwa [text, List.length_map] at fits
  have proper : ¬ (ds.head? = some 0 ∧ 1 < ds.length) := by
    rintro ⟨zero, more⟩
    have alone := plain zero
    omega
  rw [number, text, digits_append known small stop]
  simp only [value]
  rw [if_neg]
  simp only [Bool.or_eq_true, List.isEmpty_iff, decide_eq_true_eq, Bool.and_eq_true, beq_iff_eq]
  rintro (((empty | long) | ⟨⟨_, zero⟩, more⟩) | large)
  · exact filled empty
  · omega
  · exact proper ⟨zero, more⟩
  · omega

theorem number_of_noDigit {cs : List Char} (stop : NoDigit base cs) (width bound : Nat)
    (leadingZeros : Bool) : number base width bound leadingZeros cs = none := by
  rw [number, digits_of_noDigit stop]
  rfl

end Perimeter.Reader
