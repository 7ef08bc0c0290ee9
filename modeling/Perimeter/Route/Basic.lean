import Perimeter.Ident
import Perimeter.Route.Health
import Perimeter.Route.Pattern
import Perimeter.Text.Blank

/-!
Backend routes: what a service hands in to be reached. A route owns its paths and everything
below them (`expandedPatterns`), and is checked as a whole before any of it is used (`validate`).
-/

namespace Perimeter

/-- A backend service with the paths that it serves, in the order in which they are matched. -/
structure Route where
  service : ServiceId
  port : UInt16
  health : HealthCheck
  paths : List String
deriving DecidableEq

namespace Route

/-- The longest pattern that the load balancer takes, in bytes. -/
def maxPatternLength : Nat := 128

/-- All patterns of a route: its paths, then the patterns for what lies below each of them. -/
def expandedPatterns (r : Route) : List String :=
  r.paths ++ r.paths.map Pattern.below

/-- What can be wrong with a route. -/
inductive Fault where
  | noPaths
  | portZero
  | healthPath
  | malformedPattern (pattern : String)
  | longPattern (pattern : String)
  | repeatedPattern (pattern : String)
deriving DecidableEq, Repr

/-- The setting that a fault is about. -/
def Fault.field : Fault → String
  | portZero => "target_port"
  | healthPath => "health_check.path"
  | _ => "path_patterns"

/-- What is said about a route with a fault. -/
def Fault.wording (r : Route) : Fault → String
  | noPaths => "service '" ++ r.service.text ++ "' has no path patterns"
  | portZero => "service '" ++ r.service.text ++ "' has target port 0"
  | healthPath =>
    "service '" ++ r.service.text ++ "' health check path '" ++ r.health.path ++
      "' must start with '/'"
  | malformedPattern p =>
    "service '" ++ r.service.text ++ "' path pattern '" ++ p ++
      "' must start with '/' and contain no whitespace"
  | longPattern p =>
    "service '" ++ r.service.text ++ "' path pattern '" ++ p ++ "' exceeds " ++
      toString maxPatternLength ++ " characters"
  | repeatedPattern p =>
    "service '" ++ r.service.text ++ "' path pattern '" ++ p ++ "' is listed more than once"

/-- The failure of a route with a fault. -/
def Fault.error (r : Route) (f : Fault) : Error :=
  .validation (f.wording r) (some f.field)

/-- Whether a text starts with a slash. -/
def startsWithSlash (s : String) : Bool :=
  s.toList.head? == some '/'

/-- The fault of a pattern by itself. -/
def patternFault? (pattern : String) : Option Fault :=
  if !startsWithSlash pattern || pattern.toList.any Text.isBlank then
    some (.malformedPattern pattern)
  else if maxPatternLength < pattern.utf8ByteSize then some (.longPattern pattern)
  else none

/-- The first fault of patterns, read from left to right, of which `seen` have been read. -/
def patternsFault? (seen : List String) : List String → Option Fault
  | [] => none
  | p :: ps =>
    match patternFault? p with
    | some fault => some fault
    | none =>
      if seen.contains p then some (.repeatedPattern p) else patternsFault? (p :: seen) ps

/-- The first fault of a route. -/
def fault? (r : Route) : Option Fault :=
  if r.paths.isEmpty then some .noPaths
  else if r.port = 0 then some .portZero
  else if !startsWithSlash r.health.path then some .healthPath
  else patternsFault? [] r.expandedPatterns

/-- Accepts a route without a fault. -/
def validate (r : Route) : Except Error Unit :=
  match r.fault? with
  | some fault => .error (fault.error r)
  | none => .ok ()

end Route

end Perimeter
