import Perimeter.Filter.Directive
import Perimeter.Settings.Basic
import Perimeter.Text.Split

/-!
Log filters: which events are shown. The narrowest directive about an event decides; besides, an
event is shown if a directive about one of the spans around it lets it through.
-/

namespace Perimeter

/-- Directives in the order in which they were given. -/
structure Filter where
  directives : List Directive
deriving DecidableEq, Repr

namespace Filter

/-- The filter without directives shows errors only. -/
def standard : Filter := ⟨[.everything (some .error)]⟩

/-- The filter that a text stands for: directives between commas. -/
def ofText? (s : String) : Option Filter :=
  let pieces := (Text.splitOn ',' s.toList).filter fun piece => !piece.isEmpty
  if pieces.isEmpty then some standard
  else (pieces.mapM Directive.ofText?).map Filter.mk

/-- The directives without those that a later one about the same replaces. -/
def latest : List Directive → List Directive
  | [] => []
  | d :: rest => if rest.any d.sameScope then latest rest else d :: latest rest

/-- The narrowest of directives. -/
def narrowest? : List Directive → Option Directive
  | [] => none
  | d :: rest =>
    match narrowest? rest with
    | none => some d
    | some e => if d.isNarrower e then some d else some e

/-- The directive that decides on an event. -/
def deciding? (f : Filter) (e : Event) : Option Directive :=
  narrowest? ((latest f.directives).filter fun d => d.matchesEvent e)

/-- How much is let through at all. Spans that are less important are not even entered; when a
value is asked for, all are. -/
def verbosity (f : Filter) : Nat :=
  if f.directives.any Directive.asksForValue then Level.trace.verbosity
  else f.directives.foldl (fun most d => max most d.threshold.verbosity) 0

/-- Whether a span lets an event of a level through. -/
def admitsWithin (f : Filter) (level : Level) (s : Span) : Bool :=
  s.level.verbosity ≤ f.verbosity
    && (latest f.directives).any fun d => d.matchesSpan s && d.threshold.admits level

/-- Whether an event within spans is shown. -/
def shows (f : Filter) (spans : List Span) (e : Event) : Bool :=
  spans.any (f.admitsWithin e.level)
    || (f.deciding? e).any fun d => d.threshold.admits e.level

/-- The failure to read a filter. -/
def unreadable (s : String) : Error := .config ("Invalid log level '" ++ s ++ "'") true

/-- The failure to put a filter into force while another one is. -/
def occupied : Error := .config "Failed to install log subscriber" true

/-- The filter for settings. The one that the operator names wins, if it can be read. -/
def ofSettings (override : Option String) (s : Settings) : Except Error Filter :=
  match override.bind ofText? with
  | some f => .ok f
  | none =>
    match ofText? s.report.level with
    | some f => .ok f
    | none => .error (unreadable s.report.level)

end Filter

end Perimeter
