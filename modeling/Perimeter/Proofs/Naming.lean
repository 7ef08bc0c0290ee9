import Mathlib.Data.List.Basic
import Perimeter.Ident

/-!
Names with a number at their end. Two of them are equal only if the numbers are and what stands
before the numbers is (`numbered_injective`), provided that this does not end in a digit itself.
-/

namespace Perimeter.Ident

theorem isName_iff (s : String) :
    isName s = true ↔ ∃ c cs, s.toList = c :: cs ∧ c.isAlpha = true ∧ cs.length ≤ 63 ∧
      ∀ d ∈ cs, d.isAlphanum = true := by
  rw [isName]
  cases found : s.toList with
  | nil =>
    constructor
    · intro impossible
      cases impossible
    · rintro ⟨c, cs, impossible, _⟩
      cases impossible
  | cons c cs =>
    simp only [Bool.and_eq_true, decide_eq_true_eq, List.all_eq_true, and_assoc]
    constructor
    · rintro ⟨letter, short, rest⟩
      exact ⟨c, cs, rfl, letter, short, rest⟩
    · rintro ⟨_, _, same, letter, short, rest⟩
      cases same
      exact ⟨letter, short, rest⟩

/-- Letters and digits can follow a name as long as there is room. -/
theorem isName_append {s t : String} (named : isName s = true)
    (letters : ∀ c ∈ t.toList, c.isAlphanum = true) (short : s.length + t.length ≤ 64) :
    isName (s ++ t) = true := by
  obtain ⟨c, cs, first, letter, _, rest⟩ := (isName_iff s).mp named
  rw [← String.length_toList, ← String.length_toList, first, List.length_cons] at short
  refine (isName_iff _).mpr ⟨c, cs ++ t.toList, ?_, letter, ?_, ?_⟩
  · rw [String.toList_append, first, List.cons_append]
  · rw [List.length_append]
    omega
  · intro d member
    rcases List.mem_append.mp member with inside | behind
    · exact rest d inside
    · exact letters d behind

theorem exists_ofText_iff (kind : Kind) (s : String) :
    (∃ id, ofText kind s = .ok id) ↔ isName s = true := by
  constructor
  · rintro ⟨id, made⟩
    rw [← ofText_eq_ok.mp made]
    exact id.named
  · intro named
    exact ⟨⟨s, named⟩, ofText_eq_ok.mpr rfl⟩

/-- The last character of a name is a digit. -/
def EndsInDigit (s : String) : Prop := ∃ c, s.toList.getLast? = some c ∧ c.isDigit = true

instance (s : String) : Decidable (EndsInDigit s) :=
  decidable_of_iff (s.toList.getLast?.any Char.isDigit = true) (Option.any_eq_true ..)

theorem isDigit_of_mem_toString {n : Nat} {c : Char} (member : c ∈ (toString n).toList) :
    c.isDigit = true := by
  rw [Nat.toString_eq_repr, Nat.toList_repr] at member
  exact Nat.isDigit_of_mem_toDigits (by decide) (by decide) member

theorem toList_toString_ne_nil (n : Nat) : (toString n).toList ≠ [] := by
  rw [Nat.toString_eq_repr, Nat.toList_repr]
  exact Nat.toDigits_ne_nil

theorem endsInDigit_numbered (s : String) (n : Nat) : EndsInDigit (s ++ toString n) := by
  have last := List.getLast?_eq_some_getLast (toList_toString_ne_nil n)
  refine ⟨(toString n).toList.getLast (toList_toString_ne_nil n), ?_,
    isDigit_of_mem_toString (List.getLast_mem _)⟩
  rw [String.toList_append, List.getLast?_append, last]
  rfl

/-- A name keeps the end of what is appended to it. -/
theorem endsInDigit_append {s t : String} (filled : t.toList ≠ []) :
    EndsInDigit (s ++ t) ↔ EndsInDigit t := by
  have last := List.getLast?_eq_some_getLast filled
  rw [EndsInDigit, EndsInDigit, String.toList_append, List.getLast?_append, last]
  rfl

/-- Where digits follow something that ends in none, they begin at one place only. -/
private theorem eq_of_append_digits {cs ds es fs : List Char} (same : cs ++ ds = es ++ fs)
    (left : ∀ c, cs.getLast? = some c → c.isDigit = false) (digits : ∀ c ∈ fs, c.isDigit = true)
    (right : ∀ c, es.getLast? = some c → c.isDigit = false) (digits' : ∀ c ∈ ds, c.isDigit = true) :
    cs = es ∧ ds = fs := by
  rcases List.append_eq_append_iff.mp same with ⟨between, rfl, rfl⟩ | ⟨between, rfl, rfl⟩
  · cases filled : between.getLast? with
    | none =>
      rw [List.getLast?_eq_none_iff.mp filled]
      simp
    | some c =>
      have no := right c (by rw [List.getLast?_append, filled]; rfl)
      have yes := digits' c (List.mem_append_left _ (List.mem_of_getLast? filled))
      rw [no] at yes
      cases yes
  · cases filled : between.getLast? with
    | none =>
      rw [List.getLast?_eq_none_iff.mp filled]
      simp
    | some c =>
      have no := left c (by rw [List.getLast?_append, filled]; rfl)
      have yes := digits c (List.mem_append_left _ (List.mem_of_getLast? filled))
      rw [no] at yes
      cases yes

private theorem isDigit_of_not_ends {s : String} (plain : ¬ EndsInDigit s) (c : Char)
    (last : s.toList.getLast? = some c) : c.isDigit = false := by
  cases digit : c.isDigit with
  | false => rfl
  | true => exact absurd ⟨c, last, digit⟩ plain

theorem toString_injective {m n : Nat} (same : toString m = toString n) : m = n := by
  have digits := congrArg String.toList same
  rw [Nat.toString_eq_repr, Nat.toString_eq_repr, Nat.toList_repr, Nat.toList_repr] at digits
  rw [← Nat.ofDigitChars_ten_toDigits (n := m), digits, Nat.ofDigitChars_ten_toDigits]

theorem numbered_injective {s t : String} (left : ¬ EndsInDigit s) (right : ¬ EndsInDigit t)
    {m n : Nat} (same : s ++ toString m = t ++ toString n) : s = t ∧ m = n := by
  have lists := congrArg String.toList same
  rw [String.toList_append, String.toList_append] at lists
  obtain ⟨stems, numbers⟩ := eq_of_append_digits lists (isDigit_of_not_ends left)
    (fun _ => isDigit_of_mem_toString) (isDigit_of_not_ends right) (fun _ => isDigit_of_mem_toString)
  exact ⟨String.toList_injective stems, toString_injective (String.toList_injective numbers)⟩

end Perimeter.Ident
