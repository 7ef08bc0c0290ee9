import Perimeter.CommandLine.Run

/-!
The program: it finds its surroundings, runs, and leaves behind what the run comes to.
-/

namespace Perimeter.CommandLine

/-- The content of a file, if there is one that can be read. -/
def readFile? (path : String) : IO (Option String) := do
  try
    return some (← IO.FS.readFile path)
  catch _ =>
    return none

/-- The variables of this process. -/
def readEnvironment : IO Environment := do
  let content := (← readFile? "/proc/self/environ").getD ""
  return (Text.splitOn (Char.ofNat 0) content.toList).filterMap fun entry =>
    match entry.dropWhile (· != '=') with
    | [] => none
    | _ :: value =>
      some (String.ofList (entry.takeWhile (· != '=')), String.ofList value)

/-- The file with further variables in a directory or in the nearest one above it. -/
def findEnvFile? : List String → IO (Option String)
  | [] => return none
  | directory :: above => do
    match ← readFile? (directory ++ "/.env") with
    | some content => return some content
    | none => findEnvFile? above

/-- A directory and those above it. -/
def directories (path : String) : List String :=
  let parts := Text.split '/' path
  (List.range parts.length).map fun n => "/".intercalate (parts.take (parts.length - n))

/-- The contents of the files that settings may be in. -/
def readFiles (words : List String) : IO (List (String × String)) := do
  match invocation words with
  | .error _ => return []
  | .ok i =>
    (Settings.candidates i.config).filterMapM fun path => do
      return (← readFile? path).map fun content => (path, content)

/-- The text of an identifier of random hexadecimal digits, one of which tells that they are. -/
def operationName (digits : List Nat) : String :=
  let marked := (digits.set 12 4).modify 16 fun n => 8 + n % 4
  let text := marked.flatMap fun n => Nat.toDigits 16 (n % 16)
  let groups := [(0, 8), (8, 4), (12, 4), (16, 4), (20, 12)]
  "-".intercalate (groups.map fun (start, length) =>
    String.ofList ((text.drop start).take length))

/-- Writes the file of an outcome, if there is one. -/
def writeFile (o : Outcome) : IO Bool := do
  match o.file with
  | none => return true
  | some (path, content) =>
    try
      IO.FS.writeFile path content
      return true
    catch _ =>
      return false

end Perimeter.CommandLine

open Perimeter.CommandLine in
def main (words : List String) : IO UInt32 := do
  let files ← readFiles words
  let directory ← IO.currentDir
  let found : Surroundings := {
    files := fun path => files.lookup path
    writable := fun _ => true
    env := ← readEnvironment
    envFile := ← findEnvFile? (directories directory.toString)
    operation := operationName (← (List.range 32).mapM fun _ => IO.rand 0 15) }
  let hoped := run found words
  let outcome :=
    if ← writeFile hoped then hoped else run { found with writable := fun _ => false } words
  IO.print outcome.stdout
  IO.eprint outcome.stderr
  return outcome.exitCode.toUInt32
