import Perimeter.Decimal.Binary64

/-!
Documents: trees of values as data formats have them. The fields of a record keep their order, and
each key stands once.
-/

namespace Perimeter

/-- A tree of values. -/
inductive Document where
  | null
  | bool (value : Bool)
  | integer (value : Int)
  | real (value : Binary64)
  | text (value : String)
  | list (items : List Document)
  | record (fields : List (String × Document))
  /-- One of several forms, by its name. -/
  | variant (name : String) (content : Document)
deriving Inhabited, Repr

namespace Document

/-- A list of texts. -/
def texts (ss : List String) : Document := list (ss.map text)

/-- A whole number that is not negative. -/
def natural (n : Nat) : Document := integer n

/-- A value, or nothing. -/
def optional {α : Type} (f : α → Document) : Option α → Document
  | some a => f a
  | none => null

/-- The value of a field in a list of fields. -/
def lookup (key : String) (fields : List (String × Document)) : Option Document :=
  (fields.find? fun field => field.1 == key).map (·.2)

/-- Fields with one of them set: in its place if it is there, else at the end. -/
def assign (key : String) (value : Document) :
    List (String × Document) → List (String × Document)
  | [] => [(key, value)]
  | (k, v) :: rest => if k = key then (k, value) :: rest else (k, v) :: assign key value rest

/-- The value of a field of a record. -/
def get? (key : String) : Document → Option Document
  | record fields => lookup key fields
  | _ => none

theorem lookup_assign (key other : String) (value : Document) (fields : List (String × Document)) :
    lookup other (assign key value fields) =
      if other = key then some value else lookup other fields := by
  induction fields with
  | nil =>
    by_cases h : key = other
    · simp [assign, lookup, h]
    · simp [assign, lookup, h, Ne.symm h]
  | cons field rest ih =>
    obtain ⟨k, v⟩ := field
    rw [assign]
    split
    · rename_i same
      subst same
      by_cases h : k = other
      · simp [lookup, h]
      · simp [lookup, h, Ne.symm h]
    · rename_i differs
      by_cases h : k = other
      · subst h
        simp [lookup, differs]
      · have step : ∀ fields, lookup other ((k, v) :: fields) = lookup other fields := by
          intro fields
          simp [lookup, h]
        rw [step, step, ih]

end Document

end Perimeter
