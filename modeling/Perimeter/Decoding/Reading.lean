import Perimeter.Document.Basic

/-!
Reading values out of documents. A record is read field by field and may have more fields than are
asked for; a list is taken for the record whose fields it gives in order. A `Reading` says how
single values are read: `Reading.exact` takes each value only in its own form.
-/

namespace Perimeter

/-- How single values are read. -/
structure Reading where
  text? : Document → Option String
  truth? : Document → Option Bool
  /-- A whole number below a bound that is not negative. -/
  natural? : (bound : Nat) → Document → Option Nat
  /-- Whether a list that stands for a record may have more items than the record has fields. -/
  surplus : Bool

namespace Reading

/-- A text. -/
def exactText? : Document → Option String
  | .text s => some s
  | _ => none

/-- A truth value. -/
def exactTruth? : Document → Option Bool
  | .bool b => some b
  | _ => none

/-- A whole number from zero to below a bound. -/
def exactNatural? (bound : Nat) : Document → Option Nat
  | .integer n => if 0 ≤ n ∧ n < bound then some n.toNat else none
  | _ => none

/-- Each value in its own form only. -/
def exact : Reading := ⟨exactText?, exactTruth?, exactNatural?, false⟩

def uint16? (r : Reading) (d : Document) : Option UInt16 :=
  (r.natural? 0x10000 d).map UInt16.ofNat

def uint32? (r : Reading) (d : Document) : Option UInt32 :=
  (r.natural? 0x100000000 d).map UInt32.ofNat

def uint64? (r : Reading) (d : Document) : Option UInt64 :=
  (r.natural? 0x10000000000000000 d).map UInt64.ofNat

/-- The fields of a record, or those that a list gives for the keys in order. -/
def fields? (r : Reading) (keys : List String) : Document → Option (List (String × Document))
  | .record fields => some fields
  | .list items =>
    if !r.surplus && keys.length < items.length then none else some (keys.zip items)
  | _ => none

end Reading

namespace Document

/-- A list of values, each of which can be read. -/
def list? {α : Type} (read : Document → Option α) : Document → Option (List α)
  | list items => items.mapM read
  | _ => none

/-- A value, or none for null. -/
def optional? {α : Type} (read : Document → Option α) : Document → Option (Option α)
  | null => some none
  | d => (read d).map some

/-- The value of a field that must be there. -/
def required {α : Type} (key : String) (read : Document → Option α)
    (fields : List (String × Document)) : Option α :=
  (lookup key fields).bind read

/-- The value of a field, or the given one if the field is not there. -/
def orElse {α : Type} (key : String) (read : Document → Option α) (initial : α)
    (fields : List (String × Document)) : Option α :=
  match lookup key fields with
  | some d => read d
  | none => some initial

/-- The value of a field that need not be there and may be null. -/
def orNone {α : Type} (key : String) (read : Document → Option α)
    (fields : List (String × Document)) : Option (Option α) :=
  orElse key (optional? read) none fields

/-- One word of several: a text, or the key of a record with that field alone, which is null. -/
def word? : Document → Option String
  | text s => some s
  | record [(key, null)] => some key
  | _ => none

end Document

end Perimeter
