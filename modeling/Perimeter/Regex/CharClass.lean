import Perimeter.Text.Blank
import Perimeter.Text.Category
import Perimeter.Text.Folding

/-!
Sets of characters as regular expressions describe them: ranges and classes with a name, and what is
made of them.
-/

namespace Perimeter.Regex

/-- A set of characters. -/
inductive CharClass where
  | none
  | range (first last : Char)
  | category (c : Text.Category)
  | digit
  | blank
  | wordPart
  | complement (a : CharClass)
  | union (a b : CharClass)
  | intersection (a b : CharClass)
  | difference (a b : CharClass)
  /-- What is in one of two sets, but not in both. -/
  | either (a b : CharClass)
  /-- All characters that differ from one in the set in case only. -/
  | anyCase (a : CharClass)
  /-- The same for the basic Latin letters; of other characters those in the set. -/
  | anyLatinCase (a : CharClass)
deriving DecidableEq, Repr

namespace CharClass

/-- Whether a character is in a set. -/
def contains : CharClass → Char → Bool
  | none, _ => false
  | range first last, c => first ≤ c && c ≤ last
  | category k, c => k.contains c
  | digit, c => Text.digits.contains c
  | blank, c => Text.isBlank c
  | wordPart, c => Text.isWordPart c
  | complement a, c => !a.contains c
  | union a b, c => a.contains c || b.contains c
  | intersection a b, c => a.contains c && b.contains c
  | difference a b, c => a.contains c && !b.contains c
  | either a b, c => a.contains c != b.contains c
  | anyCase a, c => (Text.caseVariants c).any a.contains
  | anyLatinCase a, c => a.contains c || a.contains c.toLower || a.contains c.toUpper

/-- The set of one character. -/
def single (c : Char) : CharClass := range c c

/-- The set of all characters. -/
def all : CharClass := complement none

/-- The union of sets. -/
def unions (as : List CharClass) : CharClass := as.foldr union none

theorem contains_single (a c : Char) : (single a).contains c = true ↔ c = a := by
  simp only [single, contains, Bool.and_eq_true, decide_eq_true_eq]
  constructor
  · intro ⟨h, h'⟩
    exact Char.le_antisymm h' h
  · rintro rfl
    exact ⟨Char.le_refl _, Char.le_refl _⟩

theorem contains_all (c : Char) : all.contains c = true := rfl

theorem contains_unions (as : List CharClass) (c : Char) :
    (unions as).contains c = as.any fun a => a.contains c := by
  induction as with
  | nil => rfl
  | cons a as ih => rw [List.any_cons, ← ih]; rfl

/-- A set is part of what it becomes when case does not matter. -/
theorem contains_anyCase {a : CharClass} {c : Char} (h : a.contains c = true) :
    (anyCase a).contains c = true :=
  List.any_eq_true.2 ⟨c, Text.mem_caseVariants c, h⟩

end CharClass

end Perimeter.Regex
