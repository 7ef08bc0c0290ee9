import Perimeter.Ident

/-!
Tokens: values that are known only once a resource exists, such as its host name. A token names
the resource and one of its attributes, and the stack too when that is another one.
-/

namespace Perimeter

/-- An attribute of a resource, to be filled in at deployment. -/
structure Token where
  /-- The stack of the resource, if it is not the one that holds the token. -/
  stack : Option String
  resource : LogicalId
  property : String
deriving DecidableEq

namespace Token

/-- An attribute of a resource of the same stack. -/
def attr (resource : LogicalId) (property : String) : Token := ⟨none, resource, property⟩

/-- The same attribute as seen from another stack. -/
def exportedFrom (t : Token) (stack : String) : Token := { t with stack := some stack }

/-- The form in which a plan holds a token. -/
def text (t : Token) : String :=
  match t.stack with
  | some stack => "$\x7b" ++ stack ++ "." ++ t.resource.text ++ "." ++ t.property ++ "\x7d"
  | none => "$\x7b" ++ t.resource.text ++ "." ++ t.property ++ "\x7d"

end Token

end Perimeter
