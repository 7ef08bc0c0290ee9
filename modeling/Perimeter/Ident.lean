import Perimeter.Error

/-!
Names of services and of resources. The provisioning engine takes only letters and digits, so a
name is checked once, when it is made, and carries the proof from then on.
-/

namespace Perimeter

namespace Ident

/-- What a name stands for. -/
inductive Kind where
  | service
  | logical
deriving DecidableEq, Repr

/-- The word for a kind of name in error texts. -/
def Kind.label : Kind → String
  | service => "ServiceId"
  | logical => "LogicalId"

/-- A name is a basic Latin letter followed by at most 63 letters or digits. -/
def isName (s : String) : Bool :=
  match s.toList with
  | [] => false
  | c :: cs => c.isAlpha && decide (cs.length ≤ 63) && cs.all Char.isAlphanum

end Ident

/-- A well-formed name of one kind. -/
structure Ident (kind : Ident.Kind) where
  text : String
  named : Ident.isName text = true

/-- The name of a backend service. -/
abbrev ServiceId := Ident .service

/-- The name of a resource within a stack. -/
abbrev LogicalId := Ident .logical

namespace Ident

variable {kind : Kind}

theorem ext {a b : Ident kind} (same : a.text = b.text) : a = b := by
  cases a; cases b; congr

instance : DecidableEq (Ident kind) := fun a b =>
  decidable_of_iff (a.text = b.text) ⟨ext, congrArg _⟩

/-- The failure to make a name of the given kind. -/
def malformed (kind : Kind) (s : String) : Error :=
  .validation ("'" ++ s ++ "' is not a valid " ++ kind.label ++
    ": expected a letter followed by up to 63 letters or digits") (some kind.label)

/-- The name with the given text, if it is well formed. -/
def ofText (kind : Kind) (s : String) : Except Error (Ident kind) :=
  if h : Ident.isName s = true then .ok ⟨s, h⟩ else .error (malformed kind s)

/-- The resource name made of this name and a suffix. -/
def child (id : Ident kind) (suffix : String) : Except Error LogicalId :=
  ofText .logical (id.text ++ suffix)

/-- A name that is known to be well formed when the program is written. -/
def literal (s : String) (h : Ident.isName s = true := by decide) : Ident kind := ⟨s, h⟩

theorem ofText_eq_ok {s : String} {id : Ident kind} : ofText kind s = .ok id ↔ id.text = s := by
  rw [ofText]
  split
  · rename_i h
    constructor
    · intro same
      cases same
      rfl
    · intro same
      subst same
      rfl
  · rename_i h
    constructor
    · intro same
      cases same
    · intro same
      subst same
      exact absurd id.named h

end Ident

end Perimeter
