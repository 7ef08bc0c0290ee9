/-!
Cutting a text at every occurrence of one character, and putting pieces back together.
-/

namespace Perimeter.Text

/-- The pieces of a text between the occurrences of `sep`; there is always at least one. -/
def splitOn (sep : Char) : List Char → List (List Char)
  | [] => [[]]
  | c :: cs =>
    match splitOn sep cs with
    | [] => [[c]]
    | piece :: pieces => if c = sep then [] :: piece :: pieces else (c :: piece) :: pieces

/-- The pieces of a string between the occurrences of `sep`. -/
def split (sep : Char) (s : String) : List String :=
  (splitOn sep s.toList).map String.ofList

/-- The pieces one after another with `sep` between neighbours. -/
def join (sep : Char) : List (List Char) → List Char
  | [] => []
  | [piece] => piece
  | piece :: next :: pieces => piece ++ sep :: join sep (next :: pieces)

theorem splitOn_ne_nil (sep : Char) (cs : List Char) : splitOn sep cs ≠ [] := by
  cases cs with
  | nil => simp [splitOn]
  | cons c cs =>
    rw [splitOn]
    split
    · simp
    · split <;> simp

/-- Nothing is lost by cutting. -/
theorem join_splitOn (sep : Char) (cs : List Char) : join sep (splitOn sep cs) = cs := by
  induction cs with
  | nil => rfl
  | cons c cs ih =>
    rw [splitOn]
    split
    · rename_i h
      exact absurd h (splitOn_ne_nil sep cs)
    · rename_i piece pieces h
      rw [h] at ih
      split
      · rename_i same
        simp [join, same, ih]
      · cases pieces with
        | nil => simp_all [join]
        | cons next rest => simp_all [join]

/-- The first piece ends at the first separator. -/
theorem splitOn_append {sep : Char} {piece : List Char} (clean : sep ∉ piece) (rest : List Char) :
    splitOn sep (piece ++ sep :: rest) = piece :: splitOn sep rest := by
  induction piece with
  | nil =>
    rw [List.nil_append, splitOn]
    split
    · rename_i none
      exact absurd none (splitOn_ne_nil sep rest)
    · rename_i found
      rw [if_pos rfl, found]
  | cons c cs ih =>
    rw [List.mem_cons, not_or] at clean
    rw [List.cons_append, splitOn, ih clean.2]
    exact if_neg (Ne.symm clean.1)

/-- Lines that all end in a separator are its pieces, with nothing behind the last one. -/
theorem splitOn_lines {sep : Char} {lines : List (List Char)} (clean : ∀ line ∈ lines, sep ∉ line) :
    splitOn sep (lines.flatMap fun line => line ++ [sep]) = lines ++ [[]] := by
  induction lines with
  | nil => rfl
  | cons line lines ih =>
    rw [List.forall_mem_cons] at clean
    rw [List.flatMap_cons, List.append_assoc, List.singleton_append, splitOn_append clean.1,
      ih clean.2, List.cons_append]

theorem lines_injective {sep : Char} {lines others : List (List Char)}
    (clean : ∀ line ∈ lines, sep ∉ line) (clean' : ∀ line ∈ others, sep ∉ line)
    (same : (lines.flatMap fun line => line ++ [sep]) = others.flatMap fun line => line ++ [sep]) :
    lines = others := by
  have pieces := congrArg (splitOn sep) same
  rw [splitOn_lines clean, splitOn_lines clean'] at pieces
  exact List.append_cancel_right pieces

end Perimeter.Text
