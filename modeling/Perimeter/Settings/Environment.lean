import Perimeter.Settings.Layer
import Perimeter.Text.Case
import Perimeter.Text.Split

/-!
Settings from environment variables. `EDGEPLANE__NETWORK__USE_CDN` sets `network.use_cdn`; case
does not matter. A value is a truth value or a number if it reads as one, else a list for the
settings that are lists, else a text.
-/

namespace Perimeter

/-- Variables with their values. -/
abbrev Environment := List (String × String)

namespace Environment

/-- The start of the names of the variables with settings, in lower case. -/
def marker : String := "edgeplane__"

/-- The settings whose values are lists. -/
def listKeys : List String :=
  ["access.allowed_ipv4_cidrs", "access.allowed_ipv6_cidrs", "access.allowed_country_codes"]

/-- A text with a point for each two underscores. -/
def dotted : List Char → List Char
  | '_' :: '_' :: rest => '.' :: dotted rest
  | c :: rest => c :: dotted rest
  | [] => []

/-- The key that a variable sets, if it sets any. -/
def key? (name : String) : Option String :=
  let lowered := Text.lower name.toList
  if marker.toList.isPrefixOf lowered then
    some (String.ofList (dotted (lowered.drop marker.length)))
  else none

/-- The value of a setting with the given key. -/
def value (key text : String) : Document :=
  if Text.lowerCase text == "true" then .bool true
  else if Text.lowerCase text == "false" then .bool false
  else
    match Decimal.int64? text.toList, Decimal.float? text.toList with
    | some n, _ => .integer n
    | none, some x => .real x
    | none, none =>
      if listKeys.contains key then .texts (Text.split ',' text) else .text text

/-- The field that a variable sets. -/
def field? (entry : String × String) : Option (String × Document) :=
  (key? entry.1).map fun key => (key, value key entry.2)

/-- The fields that variables set; of those with the same key the last one counts. -/
def fields (env : Environment) : List (String × Document) :=
  (env.filterMap field?).foldl (fun fields (key, value) => Document.assign key value fields) []

/-- The layer of the settings that variables set. -/
def layer (env : Environment) : Layer := .ofFields env.fields

/-- The value of a variable. -/
def get? (env : Environment) (name : String) : Option String :=
  (env.find? fun entry => entry.1 == name).map (·.2)

/-- What a name stands for in a text: what follows the name and an equals sign in the first of the
texts `NAME=VALUE`. A name that itself runs on over the equals sign asks for the rest of the value. -/
def expand (name : List Char) (env : Environment) : List Char :=
  if name.isEmpty then []
  else
    let start := name ++ ['=']
    let entries := env.map fun (name, value) => name.toList ++ '=' :: value.toList
    ((entries.find? start.isPrefixOf).map fun entry => entry.drop start.length).getD []

/-- The variables with one more, unless it is set already. -/
def addNew (env : Environment) (name value : String) : Environment :=
  if (env.get? name).isSome then env else env ++ [(name, value)]

end Environment

end Perimeter
