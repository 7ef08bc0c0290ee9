import Perimeter.EnvFile.Line
import Perimeter.Settings.Environment
import Perimeter.Text.Category
import Perimeter.Text.Mark

/-!
Files with environment variables. A line sets a variable with `NAME=value`, in front of which
`export` may stand. A value may be quoted, and outside of single quotes `$NAME` and `${NAME}` stand
for the value of another variable. A variable that is set already keeps its value.
-/

namespace Perimeter.EnvFile

/-- Where a value is being read. -/
inductive Scope where
  /-- Outside of quotes. -/
  | bare
  /-- Within double quotes. -/
  | double
deriving DecidableEq, Repr

/-- What stands at a place of a value. -/
inductive Part where
  /-- Characters that stand for themselves, but for the special ones. -/
  | plain (scope : Scope)
  /-- Characters within single quotes. -/
  | single
  /-- The character behind a backslash. -/
  | escape (scope : Scope)
  /-- The name of a variable, as far as it has been read. -/
  | name (scope : Scope) (letters : List Char)
  /-- The name of a variable between braces, as far as it has been read. -/
  | braced (scope : Scope) (letters : List Char)
  /-- What stands behind the value. -/
  | after
deriving DecidableEq, Repr

/-- The character that a backslash and another one stand for. -/
def unescaped? (c : Char) : Option Char :=
  if c = 'n' then some '\n'
  else if c ∈ ['\\', '\x27', '\x22', '$', ' '] then some c
  else none

/-- The value that a text stands for, from some part on. -/
def value? (lookup : List Char → List Char) : Part → List Char → Option (List Char)
  | .plain .bare, [] => some []
  | .plain .double, [] => none
  | .single, [] => none
  | .escape .bare, [] => some []
  | .escape .double, [] => none
  | .name .bare letters, [] => some (lookup letters)
  | .name .double _, [] => none
  | .braced _ _, [] => none
  | .after, [] => some []
  | .plain .bare, c :: cs =>
    if c = '$' then value? lookup (.name .bare []) cs
    else if c = '\x27' then value? lookup .single cs
    else if c = '\x22' then value? lookup (.plain .double) cs
    else if c = '\\' then value? lookup (.escape .bare) cs
    else if c = ' ' ∨ c = '\t' then value? lookup .after cs
    else (value? lookup (.plain .bare) cs).map (c :: ·)
  | .plain .double, c :: cs =>
    if c = '$' then value? lookup (.name .double []) cs
    else if c = '\x22' then value? lookup (.plain .bare) cs
    else if c = '\\' then value? lookup (.escape .double) cs
    else (value? lookup (.plain .double) cs).map (c :: ·)
  | .single, c :: cs =>
    if c = '\x27' then value? lookup (.plain .bare) cs
    else (value? lookup .single cs).map (c :: ·)
  | .escape scope, c :: cs => do
    let c ← unescaped? c
    let rest ← value? lookup (.plain scope) cs
    return c :: rest
  | .name scope letters, c :: cs =>
    if Text.isAlphanumeric c then value? lookup (.name scope (letters ++ [c])) cs
    else if c = '\x7b' ∧ letters = [] then value? lookup (.braced scope []) cs
    else if c = '$' then (value? lookup (.name scope []) cs).map (lookup letters ++ ·)
    else (value? lookup (.plain scope) cs).map fun rest => lookup letters ++ c :: rest
  | .braced scope letters, c :: cs =>
    if c = '\x7d' then (value? lookup (.plain scope) cs).map (lookup letters ++ ·)
    else value? lookup (.braced scope (letters ++ [c])) cs
  | .after, c :: cs =>
    if c = '#' then some []
    else if c = ' ' ∨ c = '\t' then value? lookup .after cs
    else none

/-- A name at the start of a text, and what follows it behind blanks. -/
def name? (cs : List Char) : Option (List Char × List Char) :=
  match cs with
  | [] => none
  | c :: _ =>
    if c.isAlpha ∨ c = '_' then
      let isPart (c : Char) : Bool := c.isAlphanum || c == '_' || c == '.'
      some (cs.takeWhile isPart, (cs.dropWhile isPart).dropWhile Text.isBlank)
    else none

/-- The name and the text of the value in a line that sets a variable. -/
def assignment? (cs : List Char) : Option (List Char × List Char) := do
  let (name, rest) ← name? cs
  match rest with
  | '=' :: rest => return (name, rest.dropWhile Text.isBlank)
  | _ =>
    -- `export` alone is a variable like others, and in front of one it is ignored
    if name = "export".toList then
      let (name, rest) ← name? rest
      match rest with
      | '=' :: rest => return (name, rest.dropWhile Text.isBlank)
      | _ => none
    else none

/-- Whether there is nothing in a text but a comment. -/
def isIdle (cs : List Char) : Bool := cs.isEmpty || cs.head? == some '#'

/-- The variables after a line; `none` if the line cannot be read. -/
def applyLine? (env : Environment) (line : List Char) : Option Environment :=
  let text := Text.trim line
  if isIdle text then some env
  else do
    let (name, text) ← assignment? text
    let value ← if isIdle text then some [] else value? env.expand (.plain .bare) text
    return env.addNew (String.ofList name) (String.ofList value)

/-- The variables after lines, and whether all of them could be read; what follows one that could
not is left out. -/
def applyLines (env : Environment) : List (Option (List Char)) → Environment × Bool
  | [] => (env, true)
  | none :: _ => (env, false)
  | some line :: rest =>
    match applyLine? env line with
    | none => (env, false)
    | some env => applyLines env rest

/-- The variables after a file, and whether all of it could be read. -/
def apply (env : Environment) (content : String) : Environment × Bool :=
  applyLines env (lines (Text.withoutMark content).toList)

end Perimeter.EnvFile
