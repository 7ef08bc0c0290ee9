import Perimeter.Decimal.Reader

/-!
How a text is written as a YAML scalar: as it is, between single or double quotes, or as a block of
lines. It is written as it is only if every reader takes it for the same text again (`style`).
-/

namespace Perimeter.Yaml

/-- The forms of a scalar. -/
inductive Style where
  | plain
  | single
  | double
  | literal
deriving DecidableEq, Repr

/-- Characters that end a line. -/
def isBreak (c : Char) : Bool :=
  c == '\n' || c == '\r' || c == '\u0085' || c == '\u2028' || c == '\u2029'

/-- Characters after which an indicator counts, and in front of which it does. -/
def isGap (c : Char) : Bool := c == ' ' || c == '\t' || c == '\x00' || isBreak c

/-- Characters that stand for themselves outside of double quotes. -/
def isPrintable (c : Char) : Bool :=
  let n := c.toNat
  n == 0x0A || (0x20 ≤ n && n ≤ 0x7E)
    || (0xA0 ≤ n && n != 0xFEFF && n != 0xFFFE && n != 0xFFFF)

/-- Characters that mean something else at the start of a scalar. -/
def isIndicator (c : Char) : Bool :=
  [',', '[', ']', '\x7b', '\x7d', '#', '&', '*', '!', '|', '>', '\x27', '\x22', '%', '@',
    '\x60'].contains c

/-! ## Texts that read as something else -/

/-- Digits behind a superfluous zero, which are no number. -/
def isPaddedNumber (cs : List Char) : Bool :=
  let digits := match cs with
    | '-' :: rest => rest
    | '+' :: rest => rest
    | _ => cs
  1 < digits.length && digits.head? == some '0' && digits.all Char.isDigit

/-- Whether a text reads as nothing. -/
def isNull (s : String) : Bool := ["", "null", "Null", "NULL", "~"].contains s

/-- Whether a text reads as a truth value. -/
def isTruth (s : String) : Bool :=
  ["true", "True", "TRUE", "false", "False", "FALSE"].contains s

/-- Whether digits to a base, if they are any, stand for a number up to a bound. -/
def fits (base bound : Nat) (cs : List Char) : Bool :=
  match Decimal.natural? base cs with
  | some n => n ≤ bound
  | none => false

/-- Whether an unsigned text reads as a whole number up to a bound, to any of the four bases. -/
def isWhole (bound : Nat) (cs : List Char) : Bool :=
  match cs with
  | '0' :: 'x' :: rest => fits 16 bound rest
  | '0' :: 'o' :: rest => fits 8 bound rest
  | '0' :: 'b' :: rest => fits 2 bound rest
  | _ => !isPaddedNumber cs && fits 10 bound cs

/-- Whether a text reads as a whole number of 128 bits. -/
def isInteger (cs : List Char) : Bool :=
  match cs with
  | '-' :: rest => isWhole 0x80000000000000000000000000000000 rest
  | '+' :: rest => isWhole 0xFFFFFFFFFFFFFFFFFFFFFFFFFFFFFFFF rest
  | _ => isWhole 0xFFFFFFFFFFFFFFFFFFFFFFFFFFFFFFFF cs

/-- Whether a text reads as a floating-point number. -/
def isFloat (cs : List Char) : Bool :=
  let unplus := match cs with
    | '+' :: rest => rest
    | _ => cs
  [".inf", ".Inf", ".INF"].contains (String.ofList unplus)
    || ["-.inf", "-.Inf", "-.INF", ".nan", ".NaN", ".NAN"].contains (String.ofList cs)
    || !(cs.head? == some '+' && (unplus.head? == some '+' || unplus.head? == some '-'))
      && match Decimal.float? unplus with
        | some (.finite ..) => true
        | _ => false

/-- Whether a text would read as another kind of value, or as a number to some readers, if it were
written as it is. -/
def isAmbiguous (s : String) : Bool :=
  isNull s || isTruth s || isInteger s.toList || isPaddedNumber s.toList || isFloat s.toList

/-! ## Texts that cannot stand as they are -/

/-- Whether two neighbouring characters have a property. -/
def anyPair (p : Char → Char → Bool) : List Char → Bool
  | a :: b :: rest => p a b || anyPair p (b :: rest)
  | _ => false

/-- Whether a text has an indicator where it would count. -/
def hasIndicator (cs : List Char) : Bool :=
  ['-', '-', '-'].isPrefixOf cs || ['.', '.', '.'].isPrefixOf cs
    || cs.head?.any isIndicator
    || (cs.head?.any (fun c => c == '?' || c == '-') && (cs[1]?.all isGap))
    || cs.getLast? == some ':'
    || anyPair (fun a b => a == ':' && isGap b) cs
    || anyPair (fun a b => isGap a && b == '#') cs

/-- Whether a text has a character that only double quotes can hold. -/
def hasSpecial (cs : List Char) : Bool := cs.any fun c => !isPrintable c

/-- Whether a space stands in front of the end of a line. -/
def hasSpaceBeforeBreak (cs : List Char) : Bool := anyPair (fun a b => a == ' ' && isBreak b) cs

/-- Whether a line starts with a space. -/
def hasSpaceAfterBreak (cs : List Char) : Bool := anyPair (fun a b => isBreak a && b == ' ') cs

/-- Whether a text starts or ends with a space or a line end. -/
def hasOuterSpace (cs : List Char) : Bool :=
  let isOuter : Char → Bool := fun c => c == ' ' || isBreak c
  cs.head?.any isOuter || cs.getLast?.any isOuter

def plainAllowed (cs : List Char) : Bool :=
  !hasIndicator cs && !hasSpecial cs && !hasOuterSpace cs && !cs.any isBreak

def singleAllowed (cs : List Char) : Bool :=
  !hasSpecial cs && !hasSpaceBeforeBreak cs && !hasSpaceAfterBreak cs

def literalAllowed (cs : List Char) : Bool :=
  !hasSpecial cs && !hasSpaceBeforeBreak cs && !(cs.getLast? == some ' ')

/-- The form in which a text is written. Keys are never blocks of lines. -/
def style (isKey : Bool) (s : String) : Style :=
  let cs := s.toList
  if cs.contains '\n' then
    if literalAllowed cs && !isKey then .literal else .double
  else if isKey && cs.any isBreak then .double
  else if plainAllowed cs && !isAmbiguous s then .plain
  else if singleAllowed cs then .single
  else .double

end Perimeter.Yaml
