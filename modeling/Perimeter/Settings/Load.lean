import Perimeter.Decoding.Input
import Perimeter.Json.Reader
import Perimeter.Settings.Conversion
import Perimeter.Settings.Environment
import Perimeter.Text.Mark
import Perimeter.Yaml.Node.Reader

/-!
Loading settings: a file, if there is one, over the defaults, and environment variables over both.
The format of a file follows its extension; a path that names no file is tried again with the
known extensions behind its last part. Files in JSON and YAML are read here. What stands in a file of
another known format is told by a reader from outside (`Settings.Formats`), and nothing is assumed of
that reader.
-/

namespace Perimeter.Settings

/-- The formats of files with settings. -/
inductive Format where
  | json
  | yaml
  | toml
  | ini
  | ron
  | json5
deriving DecidableEq, Repr

namespace Format

def all : List Format := [json, yaml, toml, ini, ron, json5]

/-- The extensions of the files of a format. -/
def extensions : Format → List String
  | json => ["json"]
  | yaml => ["yaml", "yml"]
  | toml => ["toml"]
  | ini => ["ini"]
  | ron => ["ron"]
  | json5 => ["json5"]

/-- The format of files with an extension, if the extension is known. -/
def ofExtension? (extension : String) : Option Format :=
  all.find? fun format => format.extensions.contains extension

end Format

/-- What is left open about formats: in which order they are tried for a path that names no file, and
what the content of a file stands for in those that are not read here. Where no reader is given, a file
of the format cannot be loaded. -/
structure Formats where
  order : List Format := Format.all
  toml : String → Option Document := fun _ => none
  ini : String → Option Document := fun _ => none
  ron : String → Option Document := fun _ => none
  json5 : String → Option Document := fun _ => none

/-- The document that a text of a format stands for. -/
def Formats.read? (formats : Formats) : Format → String → Option Document
  | .json => Json.read?
  | .yaml => Yaml.read?
  | .toml => formats.toml
  | .ini => formats.ini
  | .ron => formats.ron
  | .json5 => formats.json5

/-- The last part of a path. -/
def lastPart (path : List Char) : List Char := (path.reverse.takeWhile (· != '/')).reverse

/-- The extension of a path: what stands behind the last point of its last part, unless that point
is the first character. -/
def extension? (path : String) : Option String :=
  let name := (lastPart path.toList).reverse
  let ending := name.takeWhile (· != '.')
  -- behind the last point there has to be another character to its left
  if ending.length + 1 < name.length then some (String.ofList ending.reverse) else none

/-- A path, read backwards, without the separators at its end and the parts that stand for the same
directory. -/
def withoutEnd : List Char → List Char
  | '/' :: path => withoutEnd path
  | '.' :: '/' :: path => withoutEnd path
  | ['.'] => []
  | path => path

/-- The path up to its last part, if that can be the name of a file. -/
def nameable? (path : String) : Option String :=
  let path := (withoutEnd path.toList.reverse).reverse
  let name := String.ofList (lastPart path)
  if name == "" || name == ".." then none else some (String.ofList path)

/-- The paths with the extensions of formats that are tried for a path. -/
def extended (order : List Format) (path : String) : List (String × Format) :=
  match nameable? path with
  | none => []
  | some path => order.flatMap fun format =>
    format.extensions.map fun extension => (path ++ "." ++ extension, format)

/-- The paths of the files that are tried for a path. -/
def candidates (path : String) (formats : Formats := {}) : List String :=
  path :: (extended formats.order path).map (·.1)

/-- The format and the content of the file for a path. A file without a known extension counts as
none. -/
def find? (files : String → Option String) (path : String) (formats : Formats := {}) :
    Option (Format × String) :=
  match files path with
  | some content => do
    let format ← Format.ofExtension? (← extension? path)
    return (format, content)
  | none =>
    (extended formats.order path).findSome? fun (path, format) =>
      (files path).map fun content => (format, content)

/-- The layer of a file, which has to be a record. A mark at its start is not part of the text. -/
def fileLayer? (format : Format) (content : String) (formats : Formats := {}) : Option Layer :=
  match formats.read? format (Text.withoutMark content) with
  | some (.record fields) => some (.ofFields fields)
  | _ => none

/-- The failure to load settings. -/
def loadFailure : Error := .config "Configuration loading failed" true

/-- The settings of a layer over the defaults with the variables over both. -/
def ofLayers (file : Layer) (env : Environment) : Except Error Settings :=
  match ofDocument? .converting (Layer.stack [file, env.layer]) with
  | some s => .ok s
  | none => .error loadFailure

/-- Loads the settings from the file for a path and from the environment. -/
def load (files : String → Option String) (path : Option String) (env : Environment)
    (formats : Formats := {}) : Except Error Settings :=
  match path.bind fun path => find? files path formats with
  | none => ofLayers [] env
  | some (format, content) =>
    match fileLayer? format content formats with
    | some file => ofLayers file env
    | none => .error loadFailure

end Perimeter.Settings
