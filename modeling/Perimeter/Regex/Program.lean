import Perimeter.Regex.Basic

/-!
Matching by programs. An expression becomes a program whose runs follow each other in the order in
which the expression prefers them; runs that reach the same place are one. `Regex.accepts` tells
whether the preferred match from the start of a text is all of it.
-/

namespace Perimeter.Regex

/-- An instruction of a program. -/
inductive Instruction where
  /-- Takes a character and goes on behind. -/
  | one (c : CharClass)
  /-- Goes on behind if the place is what it has to be. -/
  | look (l : Look)
  /-- Goes on at two places; the first one is preferred. -/
  | fork (first second : Nat)
  | jump (target : Nat)
  | accept
deriving DecidableEq, Repr

/-- A fork that prefers the first place if it is greedy. -/
def Instruction.repeating (greedy : Bool) (again behind : Nat) : Instruction :=
  if greedy then fork again behind else fork behind again

/-- The number of instructions of an expression. -/
def size : Regex → Nat
  | empty => 0
  | one _ => 1
  | look _ => 1
  | sequence a b => a.size + b.size
  | choice a b => a.size + b.size + 2
  | optional _ a => a.size + 1
  | star _ a => a.size + 2
  | plus _ a => a.size + 1

/-- The instructions of an expression from a place on. What may take no character is not repeated
by a jump to its start, but by a fork at its end, so that the run that goes on keeps its rank. -/
def code : Regex → (start : Nat) → List Instruction
  | empty, _ => []
  | one c, _ => [.one c]
  | look l, _ => [.look l]
  | sequence a b, n => a.code n ++ b.code (n + a.size)
  | choice a b, n =>
    .fork (n + 1) (n + a.size + 2) :: a.code (n + 1)
      ++ .jump (n + a.size + b.size + 2) :: b.code (n + a.size + 2)
  | optional greedy a, n =>
    .repeating greedy (n + 1) (n + a.size + 1) :: a.code (n + 1)
  | star greedy a, n =>
    let behind := n + a.size + 2
    .repeating greedy (n + 1) behind :: a.code (n + 1)
      ++ [if a.consumes then .jump n else .repeating greedy (n + 1) behind]
  | plus greedy a, n => a.code n ++ [.repeating greedy n (n + a.size + 1)]

/-- An expression has as many instructions as its size says. -/
theorem length_code (r : Regex) (n : Nat) : (r.code n).length = r.size := by
  induction r generalizing n with
  | empty => rfl
  | one c => rfl
  | look l => rfl
  | sequence a b ha hb => simp [code, size, ha, hb]
  | choice a b ha hb =>
    simp only [code, size, List.length_append, List.length_cons, ha, hb]
    omega
  | optional greedy a ha => simp [code, size, ha]
  | star greedy a ha => simp [code, size, ha]
  | plus greedy a ha => simp [code, size, ha]

/-- The program of an expression. -/
def program (r : Regex) : Array Instruction := (r.code 0 ++ [Instruction.accept]).toArray

/-- The places that a run can be at behind those in `seen` without taking a character, from a place
on, in the order of preference. Each step costs one unit of `fuel`. -/
def reach (p : Array Instruction) (before after : Option Char) :
    (fuel : Nat) → (seen : List Nat) → (place : Nat) → List Nat
  | 0, seen, _ => seen
  | fuel + 1, seen, place =>
    if seen.contains place then seen
    else
      let seen := seen ++ [place]
      match p[place]? with
      | some (.look l) =>
        if l.holds before after then reach p before after fuel seen (place + 1) else seen
      | some (.fork first second) =>
        reach p before after fuel (reach p before after fuel seen first) second
      | some (.jump target) => reach p before after fuel seen target
      | _ => seen

/-- The places that runs at some places can be at without taking a character. -/
def reachAll (p : Array Instruction) (before after : Option Char) (places : List Nat) : List Nat :=
  places.foldl (reach p before after (p.size + 1)) []

/-- The places behind a character. Runs that are less preferred than one that has matched already
are given up. -/
def advance (p : Array Instruction) (c : Char) : List Nat → List Nat
  | [] => []
  | place :: places =>
    match p[place]? with
    | some .accept => []
    | some (.one k) => if k.contains c then (place + 1) :: advance p c places else advance p c places
    | _ => advance p c places

/-- Whether one of the runs at some places matches all of a text. -/
def runs (p : Array Instruction) (before : Option Char) (places : List Nat) : List Char → Bool
  | [] => (reachAll p before none places).any fun place => p[place]? == some Instruction.accept
  | c :: cs => runs p (some c) (advance p c (reachAll p before (some c) places)) cs

/-- Whether the match that an expression prefers from the start of a text is all of it. -/
def accepts (r : Regex) (s : String) : Bool := runs r.program none [0] s.toList

end Perimeter.Regex
