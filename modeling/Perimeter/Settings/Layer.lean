import Perimeter.Decimal.Reader
import Perimeter.Document.Basic

/-!
Layers of settings. A layer is a list of values, each under a path such as `network.use_cdn` or
`access.allowed_ipv4_cidrs[0]`. Later values replace earlier ones, except that records are merged
field by field (`Document.merge`).
-/

namespace Perimeter

/-- One step into a document. -/
inductive Step where
  | key (name : String)
  /-- An item of a list; a negative position counts from the end. -/
  | index (position : Int)
deriving DecidableEq, Repr

/-- Steps into a document, the first of which is a key. -/
structure Path where
  root : String
  steps : List Step
deriving DecidableEq, Repr

namespace Path

/-- Characters of a key in a path. -/
def isKeyChar (c : Char) : Bool := c.isAlphanum || c == '_' || c == '-'

/-- The key at the start of a text, and what follows it. -/
def key? (cs : List Char) : Option (String × List Char) :=
  let key := cs.takeWhile isKeyChar
  if key.isEmpty then none else some (String.ofList key, cs.dropWhile isKeyChar)

/-- Characters that may stand around a position. -/
def isSpacing (c : Char) : Bool := c == ' ' || c == '\t'

/-- A position: a whole number of 64 bits without a plus, with spacing around it. -/
def position? (cs : List Char) : Option Int :=
  let digits := (cs.dropWhile isSpacing).takeWhile (!isSpacing ·)
  let behind := (cs.dropWhile isSpacing).dropWhile (!isSpacing ·)
  if digits.head? == some '+' || !behind.all isSpacing then none else Decimal.int64? digits

/-- Steps behind the first key, each of which costs one unit of `fuel`. -/
def steps? : (fuel : Nat) → List Char → Option (List Step)
  | _, [] => some []
  | 0, _ => none
  | fuel + 1, '.' :: cs => do
    let (key, rest) ← key? cs
    return .key key :: (← steps? fuel rest)
  | fuel + 1, '[' :: cs => do
    let position ← position? (cs.takeWhile (· != ']'))
    match cs.dropWhile (· != ']') with
    | ']' :: rest => return .index position :: (← steps? fuel rest)
    | _ => none
  | _, _ => none

/-- The path that a text stands for. -/
def read? (s : String) : Option Path := do
  let (root, rest) ← key? s.toList
  return ⟨root, ← steps? rest.length rest⟩

/-- The path that a text stands for; any other text is a single key. -/
def ofText (s : String) : Path := (read? s).getD ⟨s, []⟩

end Path

namespace Document

/-- The fields of a record; any other document has none. -/
def fields : Document → List (String × Document)
  | record fields => fields
  | _ => []

/-- The items of a list; any other document has none. -/
def items : Document → List Document
  | list items => items
  | _ => []

mutual

/-- A document with another one over it: fields of a record go one by one over the fields that are
there, and any other value takes the place of what is there. A record without fields takes the
place of null only. -/
def merge : Document → Document → Document
  | record [], .null => record []
  | record [], under => under
  | record (f :: fields), under => record (mergeFields (f :: fields) under.fields)
  | .null, _ => .null
  | .bool b, _ => .bool b
  | .integer n, _ => .integer n
  | .real x, _ => .real x
  | .text s, _ => .text s
  | .list ds, _ => .list ds
  | .variant name d, _ => .variant name d
termination_by structural upper => upper

/-- Fields with other ones over them. -/
def mergeFields : List (String × Document) → List (String × Document) → List (String × Document)
  | [], under => under
  | (key, value) :: upper, under =>
    mergeFields upper (assign key (merge value ((lookup key under).getD .null)) under)
termination_by structural upper => upper

end

/-- A list with room for an item at a position, and where the item is; missing items are null. -/
def makeRoom (position : Int) (ds : List Document) : List Document × Nat :=
  let n := position.natAbs
  if 0 ≤ position then (ds ++ List.replicate (n + 1 - ds.length) null, n)
  else (List.replicate (n - ds.length) null ++ ds, ds.length - n)

/-- Changes what stands behind steps into a document; records and lists on the way are made where
there are none. -/
def update (change : Document → Document) : List Step → Document → Document
  | [], d => change d
  | .key name :: steps, d =>
    let inner := (lookup name d.fields).getD null
    record (assign name (update change steps inner) d.fields)
  | .index position :: steps, d =>
    let (ds, i) := makeRoom position d.items
    list (ds.modify i (update change steps))

/-- A document with a value set at a path. -/
def setPath (d : Document) (path : Path) (value : Document) : Document :=
  update (merge value) (.key path.root :: path.steps) d

end Document

/-- Values under their paths. -/
abbrev Layer := List (Path × Document)

namespace Layer

/-- The layer of a record: each of its fields under the path that the key stands for. -/
def ofFields (fields : List (String × Document)) : Layer :=
  fields.map fun (key, value) => (.ofText key, value)

/-- A document with a layer over it. -/
def apply (layer : Layer) (d : Document) : Document :=
  layer.foldl (fun d (path, value) => d.setPath path value) d

/-- The document that layers make, from the lowest to the highest. -/
def stack (layers : List Layer) : Document :=
  layers.foldl (fun d layer => layer.apply d) (.record [])

end Layer

end Perimeter
