/-!
The tokens of a YAML text. The ends of blocks, which the text shows by indentation, are tokens of
their own, and so is the start of a record whose first key has just been read.
-/

namespace Perimeter.Yaml

inductive Token where
  | version
  | tagDirective (handle start : String)
  | documentStart
  | documentEnd
  | blockListStart
  | blockRecordStart
  | blockEnd
  | flowListStart
  | flowListEnd
  | flowRecordStart
  | flowRecordEnd
  | blockItem
  | flowItem
  | key
  | value
  | reference (name : String)
  | anchor (name : String)
  | tag (handle suffix : String)
  /-- A scalar; `plain` if it stands without quotes and is no block of lines. -/
  | scalar (plain : Bool) (text : String)
deriving DecidableEq, Repr

end Perimeter.Yaml
