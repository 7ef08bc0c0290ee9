import Perimeter.Event
import Perimeter.Json.Writer

/-!
The lines in which events are reported: words, or a JSON record.
-/

namespace Perimeter.Event

/-- An event as a JSON record on one line. -/
def jsonLine (e : Event) : String :=
  let parts := [("level", e.level.label), ("message", e.message), ("target", e.origin)]
  let fields := parts.map fun (key, value) => Json.field key (Json.quoted value)
  String.ofList ('\x7b' :: (", ".toList.intercalate fields) ++ ['\x7d'])

/-- The line in which an event is reported. -/
def report (asJson : Bool) (e : Event) : String := if asJson then e.jsonLine else e.line

end Perimeter.Event
