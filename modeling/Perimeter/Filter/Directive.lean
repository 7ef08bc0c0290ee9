import Perimeter.Decimal.Reader
import Perimeter.Event
import Perimeter.Regex.Program
import Perimeter.Regex.Reader
import Perimeter.Text.Blank
import Perimeter.Text.Case
import Perimeter.Text.Category

/-!
Directives of a log filter. A directive names a threshold and says what it is about: the events of
a part of the program, or those that happen within a span. Its text is `level`, `origin`,
`origin=level` or `origin[span{field=value}]=level`, where origin, span, field and value may be
missing.
-/

namespace Perimeter

/-- The least important level that is let through, if any is. -/
abbrev Threshold := Option Level

namespace Threshold

/-- How much a threshold lets through. -/
def verbosity : Threshold → Nat
  | none => 0
  | some level => level.verbosity

/-- Whether events of a level are let through. -/
def admits (t : Threshold) (level : Level) : Bool := level.verbosity ≤ t.verbosity

/-- The words for the thresholds. -/
def words : List (String × Threshold) :=
  [("error", some .error), ("warn", some .warn), ("info", some .info), ("debug", some .debug),
    ("trace", some .trace), ("off", none)]

/-- The threshold of a number. -/
def ofVerbosity? (n : Nat) : Option Threshold :=
  (words.map (·.2)).find? fun t => t.verbosity == n

/-- The threshold that a text names by a number or by a word in any case. -/
def ofText? (cs : List Char) : Option Threshold :=
  match Decimal.nat64? cs with
  | some n => ofVerbosity? n.toNat
  | none => words.lookup (String.ofList (cs.map Char.toLower))

/-- A number reads back as the threshold that lets so much through. -/
theorem ofVerbosity?_verbosity (t : Threshold) : ofVerbosity? t.verbosity = some t := by
  cases t with
  | none => rfl
  | some level => cases level <;> rfl

end Threshold

/-- What a value has to be. -/
inductive ValuePattern where
  | truth (b : Bool)
  | natural (n : UInt64)
  | integer (n : Int)
  | real (x : Binary64)
  /-- A text that an expression accepts. -/
  | text (r : Regex)
deriving DecidableEq, Repr

namespace ValuePattern

/-- The pattern that a text stands for: a truth value or a number if it reads as one, else a regular
expression. -/
def ofText? (cs : List Char) : Option ValuePattern :=
  if cs == "true".toList then some (truth true)
  else if cs == "false".toList then some (truth false)
  else
    match Decimal.nat64? cs, Decimal.int64? cs, Decimal.float? cs with
    | some n, _, _ => some (natural n)
    | none, some n, _ => some (integer n)
    | none, none, some x => some (real x)
    | none, none, none => (Regex.ofText? cs).map text

/-- Whether a value is what it has to be. -/
def admits : ValuePattern → SpanValue → Bool
  | natural n, .count m => n.toNat == m
  | text r, .text s => r.accepts s
  | _, _ => false

end ValuePattern

/-- A value that a span has to carry. -/
structure FieldPattern where
  name : String
  /-- What the value has to be; `none` admits each. -/
  value : Option ValuePattern
deriving DecidableEq, Repr

namespace FieldPattern

/-- The pattern that a text stands for: a name, and behind an equals sign what the value has to be,
up to the next one. -/
def ofText? (cs : List Char) : Option FieldPattern :=
  let name := String.ofList (cs.takeWhile (· != '='))
  match cs.dropWhile (· != '=') with
  | [] => some ⟨name, none⟩
  | _ :: rest =>
    (ValuePattern.ofText? (rest.takeWhile (· != '='))).map fun value => ⟨name, some value⟩

/-- Whether a value with a name is one that the pattern asks for. -/
def admits (f : FieldPattern) (entry : String × SpanValue) : Bool :=
  entry.1 == f.name && f.value.all fun value => value.admits entry.2

end FieldPattern

/-- What is let through of what. -/
structure Directive where
  threshold : Threshold
  /-- How the names of the parts of the program begin that the directive is about. -/
  origin : Option String
  /-- The name of the span within which the events happen. -/
  span : Option String
  /-- A value that the span, or without a span the event, carries. -/
  field : Option FieldPattern
deriving DecidableEq, Repr

namespace Directive

/-- The characters of a directive. Each comes with the one that stands for it in what is cut out:
the parts are found in the text without surrounding white space, and cut at the same places from
the text with it. -/
abbrev Marks := List (Char × Char)

/-- What is cut out. -/
def Marks.content (marks : Marks) : List Char := marks.map (·.2)

/-- The threshold that is written last; none written means that all is let through. -/
def withThreshold? (d : Directive) (content : List Char) : Option Directive :=
  if content.isEmpty then some { d with threshold := some .trace }
  else (Threshold.ofText? content).map fun t => { d with threshold := t }

/-- The end of a directive behind a span: nothing, or a threshold. -/
def ending? (d : Directive) (tail : List Char) : Marks → Option Directive
  | [] => some d
  | ('=', _) :: marks => withThreshold? d (Marks.content marks ++ tail)
  | _ => none

/-- Reads on behind the opening brace. -/
def field? (d : Directive) (tail : List Char) (marks : Marks) : Option Directive :=
  let content := Marks.content (marks.takeWhile (·.1 != '\x7d'))
  if content.isEmpty then none
  else
    match marks.dropWhile (·.1 != '\x7d') with
    | _ :: (']', _) :: marks => do
      let pattern ← FieldPattern.ofText? content
      ending? { d with field := some pattern } tail marks
    | _ => none

/-- Reads on behind the opening bracket. -/
def span? (d : Directive) (tail : List Char) (marks : Marks) : Option Directive :=
  let closes (c : Char) : Bool := c == ']' || c == '\x7b'
  let name := Marks.content (marks.takeWhile (!closes ·.1))
  match marks.dropWhile (!closes ·.1) with
  | [] => none
  | (']', _) :: marks => ending? { d with span := some (String.ofList name) } tail marks
  | _ :: marks =>
    field? { d with span := if name.isEmpty then none else some (String.ofList name) } tail marks

/-- Whether a directive without a bracket may begin with a character. -/
def isStart (c : Char) : Bool :=
  c == '-' || c == ':' || c == '_' || Text.isAlphanumeric c

/-- A directive about everything. -/
def everything (t : Threshold) : Directive := ⟨t, none, none, none⟩

/-- A text without bracket and threshold: it is a threshold if it reads as one, else an origin. -/
def plain (content : List Char) : Directive :=
  match Threshold.ofText? content with
  | some t => everything t
  | none => { everything (some .trace) with origin := some (String.ofList content) }

/-- Reads a directive that begins with a threshold or an origin. -/
def origin? (tail : List Char) (marks : Marks) : Option Directive :=
  let ends (c : Char) : Bool := c == '=' || c == '['
  let content := Marks.content (marks.takeWhile (!ends ·.1))
  let d := { everything (some .trace) with origin := some (String.ofList content) }
  match marks.dropWhile (!ends ·.1) with
  | [] => some (plain (content ++ tail))
  | ('=', _) :: marks => withThreshold? d (Marks.content marks ++ tail)
  | _ :: marks => span? d tail marks

/-- The directive that a text stands for. -/
def ofText? (cs : List Char) : Option Directive :=
  let body := Text.trim cs
  let marks := body.zip cs
  let tail := cs.drop body.length
  match body with
  | [] => none
  | '[' :: _ => span? (everything (some .trace)) tail (marks.drop 1)
  | c :: _ => if isStart c then origin? tail marks else none

/-- Whether the directive is about parts of the program of that name. -/
def startsOrigin (d : Directive) (name : String) : Bool :=
  d.origin.all fun start => name.startsWith start

/-- Whether the directive asks for a particular value. -/
def asksForValue (d : Directive) : Bool := d.field.any fun f => f.value.isSome

/-- Whether the directive can decide on an event by itself. -/
def aboutEvents (d : Directive) : Bool := d.span.isNone && !d.asksForValue

/-- Whether the directive can decide on events within a span. -/
def aboutSpans (d : Directive) : Bool := d.span.isSome || d.field.isSome

/-- Whether two directives are about the same. -/
def sameScope (d e : Directive) : Bool :=
  d.origin == e.origin && d.span == e.span && d.field == e.field

/-- Whether a directive is about an event. -/
def matchesEvent (d : Directive) (e : Event) : Bool :=
  d.aboutEvents && d.startsOrigin e.origin && d.field.all fun f => e.fields.contains f.name

/-- Whether a directive is about what happens within a span. -/
def matchesSpan (d : Directive) (s : Span) : Bool :=
  d.aboutSpans && d.startsOrigin s.origin && d.span.all (· == s.name)
    && d.field.all fun f => s.fields.any f.admits

/-- How narrow a directive about events is: by the length of the origin, then by the field. -/
def isNarrower (d e : Directive) : Bool :=
  let reach (d : Directive) : Nat := d.origin.elim 0 fun start => start.length + 1
  if reach d == reach e then
    match d.field, e.field with
    | some f, some g => g.name < f.name
    | some _, none => true
    | none, _ => false
  else reach e < reach d

end Directive

end Perimeter
