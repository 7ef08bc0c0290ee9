import Perimeter.Decimal.Shortest
import Perimeter.Document.Basic

/-!
Writing documents as JSON, one value or field a line, two spaces for each level. Characters outside
the basic Latin ones are written as they are. One of several forms is a record of a single field.
-/

namespace Perimeter.Json

/-- The two hexadecimal digits of a number below 256. -/
def twoDigits (n : Nat) : List Char := [Nat.digitChar (n / 16), Nat.digitChar (n % 16)]

/-- A character as it stands between quotes. -/
def escape (c : Char) : List Char :=
  if c = '\x22' then ['\\', '\x22']
  else if c = '\\' then ['\\', '\\']
  else if c = '\x08' then ['\\', 'b']
  else if c = '\x0c' then ['\\', 'f']
  else if c = '\n' then ['\\', 'n']
  else if c = '\r' then ['\\', 'r']
  else if c = '\t' then ['\\', 't']
  else if c.toNat < 0x20 then ['\\', 'u', '0', '0'] ++ twoDigits c.toNat
  else [c]

/-- A text between quotes. -/
def quoted (s : String) : List Char :=
  '\x22' :: s.toList.flatMap escape ++ ['\x22']

/-- A line end and the indentation of the next line. -/
def newLine (level : Nat) : List Char := '\n' :: List.replicate (2 * level) ' '

/-- Parts between two brackets, each on a line of its own and followed by a comma but the last. -/
def bracketed (left right : Char) (level : Nat) : List (List Char) → List Char
  | [] => [left, right]
  | part :: parts =>
    left :: newLine (level + 1) ++ part ++
      parts.flatMap (fun part => ',' :: newLine (level + 1) ++ part) ++ newLine level ++ [right]

/-- A floating-point number; infinities and what is not a number have no text of their own. -/
def realText (x : Binary64) : String :=
  match x with
  | .finite .. => x.pointed
  | _ => "null"

/-- A key with its value. -/
def field (key : String) (value : List Char) : List Char := quoted key ++ ':' :: ' ' :: value

mutual

/-- The text of a document whose first line is on the given level. -/
def write (level : Nat) : Document → List Char
  | .null => "null".toList
  | .bool b => if b then "true".toList else "false".toList
  | .integer n => (toString n).toList
  | .real x => (realText x).toList
  | .text s => quoted s
  | .list items => bracketed '[' ']' level (writeItems (level + 1) items)
  | .record fields => bracketed '\x7b' '\x7d' level (writeFields (level + 1) fields)
  | .variant name content =>
    bracketed '\x7b' '\x7d' level [field name (write (level + 1) content)]
termination_by structural document => document

/-- The texts of the items of a list. -/
def writeItems (level : Nat) : List Document → List (List Char)
  | [] => []
  | item :: items => write level item :: writeItems level items
termination_by structural items => items

/-- The texts of the fields of a record. -/
def writeFields (level : Nat) : List (String × Document) → List (List Char)
  | [] => []
  | (key, value) :: fields => field key (write level value) :: writeFields level fields
termination_by structural fields => fields

end

/-- The text of a document. -/
def text (d : Document) : String := String.ofList (write 0 d)

end Perimeter.Json
