/-!
White space as the Unicode property `White_Space` has it. Patterns may hold none of it, and range
texts are read with it taken off at both ends (`trim`).
-/

namespace Perimeter.Text

/-- The twenty-five characters with the Unicode property `White_Space`. -/
def isBlank (c : Char) : Bool :=
  let n := c.toNat
  (0x09 ≤ n && n ≤ 0x0D) || n == 0x20 || n == 0x85 || n == 0xA0 || n == 0x1680
    || (0x2000 ≤ n && n ≤ 0x200A) || n == 0x2028 || n == 0x2029 || n == 0x202F
    || n == 0x205F || n == 0x3000

/-- A text without the white space at its end. -/
def trimEnd (cs : List Char) : List Char :=
  (cs.reverse.dropWhile isBlank).reverse

/-- A text without the white space at its two ends. -/
def trim (cs : List Char) : List Char :=
  trimEnd (cs.dropWhile isBlank)

private theorem dropWhile_clean {cs : List Char} (clean : ∀ c ∈ cs, isBlank c = false) :
    cs.dropWhile isBlank = cs := by
  cases cs with
  | nil => rfl
  | cons c cs => exact List.dropWhile_cons_of_neg (by simp [clean c (List.mem_cons_self ..)])

/-- White space at the two ends is taken off a text that holds none. -/
theorem trim_surrounded {before cs after : List Char} (left : ∀ c ∈ before, isBlank c = true)
    (clean : ∀ c ∈ cs, isBlank c = false) (right : ∀ c ∈ after, isBlank c = true) :
    trim (before ++ cs ++ after) = cs := by
  have behind : trimEnd (cs ++ after) = cs := by
    have blank : ∀ c ∈ after.reverse, isBlank c = true :=
      fun c member => right c (List.mem_reverse.mp member)
    have backwards : ∀ c ∈ cs.reverse, isBlank c = false :=
      fun c member => clean c (List.mem_reverse.mp member)
    rw [trimEnd, List.reverse_append, List.dropWhile_append_of_pos blank, dropWhile_clean backwards,
      List.reverse_reverse]
  rw [trim, List.append_assoc, List.dropWhile_append_of_pos left]
  cases cs with
  | nil =>
    rw [List.nil_append, ← List.append_nil after, List.dropWhile_append_of_pos right]
    rfl
  | cons c cs =>
    have first : isBlank c = false := clean c (List.mem_cons_self ..)
    rw [List.cons_append, List.dropWhile_cons_of_neg (by simp [first]), ← List.cons_append, behind]

theorem trim_subset (cs : List Char) : trim cs ⊆ cs := by
  intro c member
  have inner := (List.dropWhile_sublist _).subset (List.mem_reverse.mp member)
  exact (List.dropWhile_sublist _).subset (List.mem_reverse.mp inner)

end Perimeter.Text
