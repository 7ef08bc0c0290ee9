import Mathlib.Data.List.Induction
import Perimeter.Decimal.Reader
import Perimeter.Proofs.Net.Number

/-!
Whole numbers read from a text and written again. The digits that a number is read from are its own if
there is no zero in front of them (`toDigits_eq_iff`), so that the text of a whole number comes back as it
was if it is written plainly (`toString_int64?_iff`).
-/

namespace Perimeter.Decimal

variable {cs : List Char} {c : Char} {n d : Nat}

theorem natural?_concat (filled : cs ≠ []) (c : Char) : natural? 10 (cs ++ [c]) =
    (natural? 10 cs).bind fun n => (digitOf? 10 c).map fun d => n * 10 + d := by
  have more : (cs ++ [c]).isEmpty = false := by simp
  have some_cs : cs.isEmpty = false := by simpa using filled
  rw [natural?, natural?, more, some_cs, if_neg Bool.false_ne_true, if_neg Bool.false_ne_true,
    List.foldlM_append]
  simp

theorem natural?_singleton (c : Char) : natural? 10 [c] = digitOf? 10 c := by
  simp [natural?]

theorem of_digitOf? (digit : digitOf? 10 c = some d) : d < 10 ∧ Nat.digitChar d = c := by
  unfold digitOf? at digit
  by_cases range : '0' ≤ c ∧ c ≤ '9'
  · have low : '0'.toNat ≤ c.toNat := range.1
    have high : c.toNat ≤ '9'.toNat := range.2
    simp only [if_pos range, Char.reduceToNat] at digit low high
    have small : c.toNat - 48 < 10 := by omega
    rw [if_pos small] at digit
    cases digit
    have chars : ∀ d : Fin 10, (Nat.digitChar d).toNat = 48 + d := by decide
    have same : (Nat.digitChar (c.toNat - 48)).toNat = 48 + (c.toNat - 48) := chars ⟨_, small⟩
    exact ⟨small, Char.toNat_inj.mp (by omega)⟩
  · -- A letter counts for ten or more.
    simp only [if_neg range] at digit
    split_ifs at digit <;> omega

/-- Digits without a zero in front are those of the number that they stand for. -/
theorem toDigits_of_natural? (read : natural? 10 cs = some n)
    (plain : cs.head? = some '0' → cs = ['0']) : Nat.toDigits 10 n = cs := by
  induction cs using List.reverseRecOn generalizing n with
  | nil => cases read
  | append_singleton front c ih =>
    by_cases single : front = []
    · subst single
      rw [List.nil_append, natural?_singleton] at read
      obtain ⟨small, rfl⟩ := of_digitOf? read
      rw [Nat.toDigits_of_lt_base small]
      rfl
    · rw [natural?_concat single] at read
      obtain ⟨q, earlier, last⟩ := Option.bind_eq_some_iff.mp read
      obtain ⟨d, digit, rfl⟩ := Option.map_eq_some_iff.mp last
      obtain ⟨small, rfl⟩ := of_digitOf? digit
      have proper : front.head? ≠ some '0' := by
        intro zero
        have whole := plain (by rw [List.head?_append, zero, Option.some_or])
        have length := congrArg List.length whole
        simp [single] at length
      have written := ih earlier fun zero => absurd zero proper
      have positive : 0 < q := by
        rw [Nat.pos_iff_ne_zero]
        rintro rfl
        exact proper (written ▸ rfl)
      rw [Nat.mul_comm, ← Nat.toDigits_append_toDigits (by decide) positive small, written,
        Nat.toDigits_of_lt_base small]

theorem toDigits_eq_iff (read : natural? 10 cs = some n) :
    Nat.toDigits 10 n = cs ↔ (cs.head? = some '0' → cs = ['0']) := by
  refine ⟨?_, toDigits_of_natural? read⟩
  rintro rfl zero
  have two : 1 < 10 := by decide
  obtain ⟨ds, text, small, _, plain⟩ := Reader.exists_writes two n
  rw [text] at zero ⊢
  cases ds with
  | nil => cases zero
  | cons d ds =>
    have digits : ∀ d : Fin 10, Nat.digitChar d = '0' → d.val = 0 := by decide
    have first : d = 0 := digits ⟨d, small d (List.mem_cons_self ..)⟩ (Option.some.inj zero)
    have alone : ds = [] := by simpa [first] using plain
    rw [first, alone]
    rfl

/-- A whole number is written as it is shown: without a plus, and without a zero in front of the other
digits or behind a minus. -/
structure Plain (cs : List Char) : Prop where
  positive : cs.head? ≠ some '+'
  negative : cs.head? = some '-' → cs.tail.head? ≠ some '0'
  natural : cs.head? = some '0' → cs = ['0']

theorem plain_minus {rest : List Char} : Plain ('-' :: rest) ↔ rest.head? ≠ some '0' :=
  ⟨fun plain => plain.negative rfl, fun other => ⟨by simp, fun _ => other, by simp⟩⟩

theorem plus_not_mem_toDigits (n : Nat) : '+' ∉ Nat.toDigits 10 n := by
  intro member
  obtain ⟨d, small, same⟩ := Reader.mem_toDigits (by decide) member
  have digits : ∀ d : Fin 10, Nat.digitChar d ≠ '+' := by decide
  exact digits ⟨d, small⟩ same

theorem toList_toString (n : Int) : (toString n).toList =
    if 0 ≤ n then Nat.toDigits 10 n.toNat else '-' :: Nat.toDigits 10 (-n).toNat := by
  rw [Int.toString_eq_repr, Int.repr_eq_if]
  split
  · exact Nat.toList_repr
  · rw [String.toList_append, Nat.toList_repr]
    rfl

/-- What a sign leaves is behind a minus, behind a plus, or everything. -/
theorem sign_cases (cs : List Char) :
    (∃ rest, cs = '-' :: rest ∧ sign cs = (true, rest)) ∨
    (∃ rest, cs = '+' :: rest ∧ sign cs = (false, rest)) ∨
      cs.head? ≠ some '-' ∧ cs.head? ≠ some '+' ∧ sign cs = (false, cs) := by
  fun_cases sign cs with
  | case1 rest => exact .inl ⟨rest, rfl, rfl⟩
  | case2 rest => exact .inr (.inl ⟨rest, rfl, rfl⟩)
  | case3 _ noMinus noPlus =>
    refine .inr (.inr ⟨?_, ?_, rfl⟩)
    · intro minus
      obtain ⟨rest, whole⟩ := List.head?_eq_some_iff.mp minus
      exact noMinus rest whole
    · intro plus
      obtain ⟨rest, whole⟩ := List.head?_eq_some_iff.mp plus
      exact noPlus rest whole

theorem of_int64? {n : Int} (read : int64? cs = some n) : ∃ m : Nat,
    natural? 10 (sign cs).2 = some m ∧ n = if (sign cs).1 then -(m : Int) else m := by
  simp only [int64?, integer?, Option.bind_eq_bind] at read
  obtain ⟨m, digits, bounded⟩ := Option.bind_eq_some_iff.mp read
  refine ⟨m, digits, ?_⟩
  by_cases within : -0x8000000000000000 ≤ (if (sign cs).1 then -(m : Int) else m) ∧
      (if (sign cs).1 then -(m : Int) else m) ≤ 0x7FFFFFFFFFFFFFFF
  · rw [if_pos within] at bounded
    exact (Option.some.inj bounded).symm
  · rw [if_neg within] at bounded
    cases bounded

/-- A whole number is shown as it is written if it is written plainly. -/
theorem toString_int64?_iff {text : String} {n : Int} (read : int64? text.toList = some n) :
    toString n = text ↔ Plain text.toList := by
  rw [← String.toList_inj, toList_toString]
  obtain ⟨m, value, rfl⟩ := of_int64? read
  rcases sign_cases text.toList with ⟨rest, whole, signed⟩ | ⟨rest, whole, signed⟩ | ⟨noMinus, noPlus, signed⟩
  · -- Behind a minus there are the digits of a number that is not zero.
    rw [signed] at value ⊢
    change natural? 10 rest = some m at value
    rw [whole, if_pos rfl, plain_minus]
    by_cases zero : m = 0
    · subst zero
      refine iff_of_false (by simp) fun other => ?_
      have written := toDigits_of_natural? value fun first => absurd first other
      exact other (by rw [← written]; rfl)
    · have negative : ¬ (0 : Int) ≤ -(m : Int) := by omega
      have magnitude : (- -(m : Int)).toNat = m := by omega
      have tails : '-' :: Nat.toDigits 10 m = '-' :: rest ↔ Nat.toDigits 10 m = rest := by simp
      rw [if_neg negative, magnitude, tails, toDigits_eq_iff value]
      refine ⟨fun natural first => ?_, fun other first => absurd first other⟩
      rw [natural first] at value
      exact zero (Option.some.inj value).symm
  · rw [signed] at value ⊢
    have shown : (0 : Int) ≤ m := Int.natCast_nonneg m
    rw [whole, if_neg Bool.false_ne_true, if_pos shown, Int.toNat_natCast]
    refine iff_of_false ?_ fun plain => plain.positive rfl
    intro same
    exact plus_not_mem_toDigits m (same ▸ List.mem_cons_self ..)
  · rw [signed] at value ⊢
    have shown : (0 : Int) ≤ m := Int.natCast_nonneg m
    rw [if_neg Bool.false_ne_true, if_pos shown, Int.toNat_natCast, toDigits_eq_iff value]
    exact ⟨fun natural => ⟨noPlus, fun minus => absurd minus noMinus, natural⟩, Plain.natural⟩

end Perimeter.Decimal
