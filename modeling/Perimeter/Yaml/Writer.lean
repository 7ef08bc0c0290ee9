import Perimeter.Decimal.Shortest
import Perimeter.Document.Basic
import Perimeter.Yaml.Style

/-!
Writing documents as YAML in block style, two spaces for each level. Lists are not indented under
their key, lines are never folded, and one of several forms is a tag.
-/

namespace Perimeter.Yaml

/-- A number of spaces. -/
def spaces (n : Nat) : List Char := List.replicate n ' '

/-- The lowest hexadecimal digits of a number, as many as wanted. -/
def hexDigits (width n : Nat) : List Char :=
  let ds := (Nat.toDigits 16 n).map Char.toUpper
  List.replicate (width - ds.length) '0' ++ ds

/-- The letters that stand for characters behind a backslash. -/
def escapes : List (Char × Char) := [
  ('\x00', '0'), ('\x07', 'a'), ('\x08', 'b'), ('\t', 't'), ('\n', 'n'), ('\x0b', 'v'),
  ('\x0c', 'f'), ('\r', 'r'), ('\x1b', 'e'), ('\x22', '\x22'), ('\\', '\\'), ('\u0085', 'N'),
  ('\u2028', 'L'), ('\u2029', 'P')]

/-- A character as it stands between double quotes. -/
def escape (c : Char) : List Char :=
  if isPrintable c && !isBreak c && c != '\x22' && c != '\\' then [c]
  else
    match escapes.lookup c with
    | some letter => ['\\', letter]
    | none =>
      if c.toNat ≤ 0xFF then '\\' :: 'x' :: hexDigits 2 c.toNat
      else if c.toNat ≤ 0xFFFF then '\\' :: 'u' :: hexDigits 4 c.toNat
      else '\\' :: 'U' :: hexDigits 8 c.toNat

/-- A text in which each line but the first is indented; empty lines are not. `fresh` says that a
line has just ended. -/
def indentLines (indent : Nat) : (fresh : Bool) → List Char → List Char
  | _, [] => []
  | fresh, c :: cs =>
    if isBreak c then c :: indentLines indent true cs
    else (if fresh then spaces indent else []) ++ c :: indentLines indent false cs

/-- A text between single quotes, in which a quote is written twice. -/
def singleQuoted (indent : Nat) (cs : List Char) : List Char :=
  let doubled := cs.flatMap fun c => if c = '\x27' then ['\x27', '\x27'] else [c]
  let ending := if cs.getLast?.any isBreak then spaces indent else []
  '\x27' :: indentLines indent false doubled ++ ending ++ ['\x27']

/-- A text between double quotes. -/
def doubleQuoted (cs : List Char) : List Char := '\x22' :: cs.flatMap escape ++ ['\x22']

/-- What the head of a block says about its lines: the indentation if the first line starts with a
space or is empty, and whether none or all of the line ends at the end are kept. -/
def blockHints (cs : List Char) : List Char :=
  (if cs.head?.any (fun c => c == ' ' || isBreak c) then ['2'] else []) ++
    match cs.reverse with
    | [] => ['-']
    | [c] => if isBreak c then ['+'] else ['-']
    | c :: d :: _ => if !isBreak c then ['-'] else if isBreak d then ['+'] else []

/-- A text as a block of lines. -/
def literal (indent : Nat) (cs : List Char) : List Char :=
  '|' :: blockHints cs ++ '\n' :: indentLines indent true cs

/-- A text as a scalar with the line end behind it. -/
def scalarLine (indent : Nat) (s : String) : List Char :=
  let cs := s.toList
  match style false s with
  | .plain => cs ++ ['\n']
  | .single => singleQuoted indent cs ++ ['\n']
  | .double => doubleQuoted cs ++ ['\n']
  | .literal => literal indent cs ++ if cs.getLast?.any isBreak then [] else ['\n']

/-- A text as a key. -/
def keyText (s : String) : List Char :=
  match style true s with
  | .plain => s.toList
  | .single => singleQuoted 0 s.toList
  | _ => doubleQuoted s.toList

/-- A floating-point number. -/
def realText : Binary64 → String
  | .nan => ".nan"
  | .infinite false => ".inf"
  | .infinite true => "-.inf"
  | x => x.pointed

/-- What a value is written behind. -/
inductive Place where
  /-- The colon of a field. -/
  | field
  /-- The dash of an item. -/
  | item
  /-- A tag behind the dash of an item. -/
  | taggedItem
deriving DecidableEq, Repr

/-- The column of the items of a list that is written at a place. -/
def Place.listColumn (column : Nat) : Place → Nat
  | field => column
  | item => column + 2
  | taggedItem => column + 2

/-- Lines that follow what stands at a column: on lines of their own, or, behind a dash, with the
first of them on the same line. -/
def Place.attach (column : Nat) (lines : List Char) : Place → List Char
  | field => '\n' :: lines
  | item => lines.drop (column + 1)
  | taggedItem => '\n' :: lines

/-- The place of what a tag at a place belongs to. -/
def Place.tagged : Place → Place
  | field => field
  | item => taggedItem
  | taggedItem => taggedItem

mutual

/-- A value with the line end behind it, for a place whose key or dash is in the given column. -/
def write (column : Nat) (place : Place) : Document → List Char
  | .null => " null\n".toList
  | .bool b => if b then " true\n".toList else " false\n".toList
  | .integer n => ' ' :: (toString n).toList ++ ['\n']
  | .real x => ' ' :: (realText x).toList ++ ['\n']
  | .text s => ' ' :: scalarLine (column + 2) s
  | .list items =>
    if items.isEmpty then " []\n".toList
    else place.attach column (writeItems (place.listColumn column) items)
  | .record fields =>
    if fields.isEmpty then " \x7b\x7d\n".toList
    else place.attach column (writeFields (column + 2) fields)
  | .variant name content =>
    ' ' :: '!' :: name.toList ++ write column place.tagged content
termination_by structural document => document

/-- The lines of the items of a list. -/
def writeItems (column : Nat) : List Document → List Char
  | [] => []
  | item :: items =>
    spaces column ++ '-' :: write column .item item ++ writeItems column items
termination_by structural items => items

/-- The lines of the fields of a record. -/
def writeFields (column : Nat) : List (String × Document) → List Char
  | [] => []
  | (key, value) :: fields =>
    spaces column ++ keyText key ++ ':' :: write column .field value ++ writeFields column fields
termination_by structural fields => fields

end

/-- The text of a document. -/
def text (d : Document) : String :=
  String.ofList <|
    match d with
    | .list (item :: items) => writeItems 0 (item :: items)
    | .record (field :: fields) => writeFields 0 (field :: fields)
    | d => (write 0 .field d).drop 1

end Perimeter.Yaml
