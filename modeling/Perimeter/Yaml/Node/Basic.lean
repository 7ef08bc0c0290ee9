import Perimeter.Decimal.Reader
import Perimeter.Document.Basic

/-!
The nodes of a YAML text and the documents that they stand for. A plain scalar is null, a truth
value or a number if it reads as one; the keys of a record are single values, each of which stands
once.
-/

namespace Perimeter.Yaml

/-- A single value. -/
inductive Value where
  | null
  /-- What its tag says cannot be read. -/
  | bad
  | bool (value : Bool)
  | integer (value : Int)
  /-- A floating-point number as it is written. -/
  | real (written : String)
  | text (value : String)
deriving DecidableEq, Repr

namespace Value

def isInfinity (s : String) : Bool :=
  [".inf", ".Inf", ".INF", "+.inf", "+.Inf", "+.INF", "-.inf", "-.Inf", "-.INF"].contains s

def isNotNumber (s : String) : Bool := [".nan", ".NaN", ".NAN"].contains s

/-- Whether a text is a floating-point number; words for infinity without a point are texts. -/
def isReal (s : String) : Bool :=
  isInfinity s || isNotNumber s ||
    (s.toList.any Char.isDigit && (Decimal.float? s.toList).isSome)

/-- A whole number to one of the bases ten, sixteen and eight. -/
def integer? (cs : List Char) : Option Int :=
  let low : Int := -0x8000000000000000
  let high : Int := 0x7FFFFFFFFFFFFFFF
  let marked := match cs with
    | '0' :: 'x' :: rest => Decimal.integer? 16 low high rest
    | '0' :: 'o' :: rest => Decimal.integer? 8 low high rest
    | '+' :: rest => Decimal.int64? rest
    | _ => none
  marked.or (Decimal.int64? cs)

/-- The truth value that a word stands for: all of its letters, the first one or none may be
capital. -/
def truth? (s : String) : Option Bool :=
  if ["true", "True", "TRUE"].contains s then some true
  else if ["false", "False", "FALSE"].contains s then some false
  else none

/-- The value of a plain scalar without a tag. -/
def ofPlain (s : String) : Value :=
  match integer? s.toList with
  | some n => integer n
  | none =>
    if ["", "~", "null"].contains s then null
    else
      match truth? s with
      | some b => bool b
      | none => if isReal s then real s else text s

/-- The value of a plain scalar with a tag for one of the common kinds. -/
def ofKind (kind s : String) : Value :=
  match kind with
  | "bool" => ((truth? s).map bool).getD bad
  | "int" => ((Decimal.int64? s.toList).map integer).getD bad
  | "float" => if isReal s then real s else bad
  | "null" => if s == "~" || s == "null" then null else bad
  | _ => text s

/-- A value as a key. -/
def key? : Value → Option String
  | text s => some s
  | integer n => some (toString n)
  | bool b => some (if b then "true" else "false")
  | real s => some s
  | null => none
  | bad => none

/-- The document of a value; infinities have none. -/
def toDocument? : Value → Option Document
  | null => some .null
  | bad => some .null
  | bool b => some (.bool b)
  | integer n => some (.integer n)
  | real s => (Decimal.float? s.toList).map .real
  | text s => some (.text s)

end Value

/-- A node of a YAML text. -/
inductive Node where
  | single (value : Value)
  | list (items : List Node)
  | record (entries : List (Node × Node))

namespace Node

instance : Inhabited Node := ⟨.single .null⟩

/-- Whether two nodes are the same single value. -/
def isSameKey : Node → Node → Bool
  | single a, single b => a == b
  | _, _ => false

def isBad : Node → Bool
  | single .bad => true
  | _ => false

/-- Pairs keys with the nodes behind them; no key may be repeated. What cannot be read is no key,
and the next node takes its place. -/
def pair : Option Node → List (Node × Node) → List Node → Option (List (Node × Node))
  | _, entries, [] => some entries
  | none, entries, n :: ns => pair (if n.isBad then none else some n) entries ns
  | some k, entries, n :: ns =>
    if entries.any fun entry => isSameKey entry.1 k then none
    else pair none (entries ++ [(k, n)]) ns

/-- The record of keys and values in turn. -/
def recordOf? (nodes : List Node) : Option Node := (pair none [] nodes).map record

/-- A node as a key. -/
def key? : Node → Option String
  | single v => v.key?
  | _ => none

mutual

/-- The document of a node. -/
def toDocument? : Node → Option Document
  | .single v => v.toDocument?
  | .list items => (itemDocuments items).map .list
  | .record entries => (fieldDocuments [] entries).map .record
termination_by structural n => n

/-- The documents of items. -/
def itemDocuments : List Node → Option (List Document)
  | [] => some []
  | n :: ns => do
    let d ← toDocument? n
    return d :: (← itemDocuments ns)
termination_by structural ns => ns

/-- The fields of entries, behind those of earlier ones. -/
def fieldDocuments (before : List (String × Document)) :
    List (Node × Node) → Option (List (String × Document))
  | [] => some before
  | (k, n) :: entries => do
    let key ← k.key?
    let d ← toDocument? n
    fieldDocuments (Document.assign key d before) entries
termination_by structural entries => entries

end

end Node

end Perimeter.Yaml
