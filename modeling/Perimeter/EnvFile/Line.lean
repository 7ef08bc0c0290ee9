import Perimeter.Text.Blank

/-!
Lines of a file with environment variables. A line ends with the text line it is on, unless a quote
is open there: then it runs on to the text line where the quote is closed. A number sign behind a
blank, or at the start of a text line that starts a line, makes the rest of that text line a
comment.
-/

namespace Perimeter.EnvFile

/-- What stands at a place of a line, as far as it matters for where the line ends. -/
inductive Place where
  /-- Outside of quotes. -/
  | plain
  /-- Outside of quotes, behind a blank. -/
  | blank
  /-- Outside of quotes, behind a backslash. -/
  | escaped
  /-- Within double quotes. -/
  | double
  /-- Within double quotes, behind a backslash. -/
  | doubleEscaped
  /-- Within single quotes. -/
  | single
  /-- Within single quotes, behind a backslash. -/
  | singleEscaped
deriving DecidableEq, Repr

namespace Place

/-- The place behind a character that opens a quote or escapes the next one, if it does. -/
def special? (c : Char) : Option Place :=
  if c = '\\' then some .escaped
  else if c = '\x22' then some .double
  else if c = '\x27' then some .single
  else none

/-- The place behind a character. -/
def next : Place → Char → Place
  | plain, c =>
    if Text.isBlank c && c != '\n' && c != '\x0d' then blank else (special? c).getD plain
  -- of two blanks the second one is like any other character
  | blank, c => (special? c).getD plain
  | escaped, _ => plain
  | double, c => if c = '\\' then doubleEscaped else if c = '\x22' then plain else double
  | doubleEscaped, _ => double
  | single, c => if c = '\\' then singleEscaped else if c = '\x27' then plain else single
  | singleEscaped, _ => single

end Place

/-- What follows the text line that a text begins with. -/
def nextTextLine (cs : List Char) : List Char := (cs.dropWhile (· != '\n')).drop 1

/-- What is left of a line from some place on, and the text behind it. A line that ends without a
line end has to end in a plain place. -/
def lineFrom? : Place → List Char → Option (List Char × List Char)
  | place, [] => if place = .plain then some ([], []) else none
  | place, c :: cs =>
    if place = .blank ∧ c = '#' then some ([], nextTextLine cs)
    else if c = '\n' ∧ place.next c = .plain then some ([], cs)
    else (lineFrom? (place.next c) cs).map fun (content, rest) => (c :: content, rest)

/-- Whether the text line that a text begins with is a comment. -/
def startsComment (cs : List Char) : Bool :=
  ((cs.takeWhile (· != '\n')).dropWhile Text.isBlank).head? == some '#'

/-- The first line of a text and the text behind it. -/
def line? (cs : List Char) : Option (List Char × List Char) :=
  if startsComment cs then some ([], nextTextLine cs) else lineFrom? .plain cs

theorem length_nextTextLine (cs : List Char) : (nextTextLine cs).length ≤ cs.length := by
  have h := (List.dropWhile_suffix (· != '\n') (l := cs)).length_le
  simp only [nextTextLine, List.length_drop]
  omega

/-- What follows a line is no longer than what it was cut from. -/
theorem length_of_lineFrom? {place : Place} {cs content rest : List Char}
    (h : lineFrom? place cs = some (content, rest)) : rest.length ≤ cs.length := by
  induction cs generalizing place content with
  | nil =>
    simp only [lineFrom?] at h
    split at h <;> simp_all
  | cons c cs ih =>
    simp only [lineFrom?] at h
    split at h
    · have := length_nextTextLine cs
      simp_all
      omega
    · split at h
      · simp_all
      · obtain ⟨⟨content', rest'⟩, h', e⟩ := Option.map_eq_some_iff.1 h
        simp only [Prod.mk.injEq] at e
        obtain ⟨-, rfl⟩ := e
        have := ih h'
        simp only [List.length_cons]
        omega

/-- What follows a line of a text that is not empty is shorter than the text. -/
theorem length_of_line? {c : Char} {cs content rest : List Char}
    (h : line? (c :: cs) = some (content, rest)) : rest.length < (c :: cs).length := by
  simp only [line?] at h
  split at h
  · rename_i comment
    simp only [Option.some.injEq, Prod.mk.injEq] at h
    obtain ⟨-, rfl⟩ := h
    by_cases e : c = '\n'
    · subst e
      simp [startsComment] at comment
    · simp only [nextTextLine, List.dropWhile_cons, bne_iff_ne, ne_eq, e, not_false_eq_true,
        if_true, List.length_cons]
      have := length_nextTextLine cs
      simp only [nextTextLine] at this
      omega
  · simp only [lineFrom?] at h
    split at h
    · simp_all
    · split at h
      · simp_all
      · obtain ⟨⟨content', rest'⟩, h', e⟩ := Option.map_eq_some_iff.1 h
        simp only [Prod.mk.injEq] at e
        obtain ⟨-, rfl⟩ := e
        have := length_of_lineFrom? h'
        simp only [List.length_cons]
        omega

/-- The lines of a text; the last one is `none` if it does not end. -/
def lines : List Char → List (Option (List Char))
  | [] => []
  | c :: cs =>
    match _h : line? (c :: cs) with
    | none => [none]
    | some (content, rest) => some content :: lines rest
  termination_by cs => cs.length
  decreasing_by exact length_of_line? (by assumption)

end Perimeter.EnvFile
