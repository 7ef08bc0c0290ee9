import Perimeter.CommandLine.Basic

/-!
Reading a command line. Options may stand in front of the command and behind it; one that stands in
both places counts as it stands behind. Letters may be joined (`-vc path`), and a value may be
attached (`--config=path`, `-cpath`, `-c=path`) or be the next word. A value is looked at only when
the next option or the end of its scope is reached.
-/

namespace Perimeter.CommandLine

/-- One word of a command line. -/
inductive Word where
  /-- Two dashes: no options from here on. -/
  | dashes
  /-- An option by its word, with what is attached to it. -/
  | long (name : String) (value : Option String)
  /-- Options by their letters. -/
  | short (letters : List Char)
  | plain (text : String)
deriving DecidableEq, Repr

/-- The kind of a word. One dash alone is a plain word. -/
def Word.ofText (text : String) : Word :=
  match text.toList with
  | ['-', '-'] => .dashes
  | '-' :: '-' :: cs =>
    let rest := cs.dropWhile (· != '=')
    .long (String.ofList (cs.takeWhile (· != '=')))
      (if rest.isEmpty then none else some (String.ofList (rest.drop 1)))
  | '-' :: c :: cs => .short (c :: cs)
  | _ => .plain text

/-- The options that have been given in a scope. -/
structure Given where
  config : Option String
  format : Option PlanFormat
  output : Option String
  verbose : Bool
deriving DecidableEq, Repr

namespace Given

def none : Given := ⟨.none, .none, .none, false⟩

/-- Whether an option has been given. -/
def has (g : Given) : Key → Bool
  | .config => g.config.isSome
  | .format => g.format.isSome
  | .output => g.output.isSome
  | .verbose => g.verbose
  | .help | .version => false

/-- The path that a value stands for; an empty one stands for none. -/
def path? (key : Key) (value : String) : Except Notice String :=
  if value.isEmpty then .error (.fault (.badValue key)) else .ok value

/-- The options with the value of one more. -/
def put (g : Given) (key : Key) (value : String) : Except Notice Given := do
  if g.has key then
    throw (.fault (.repeated key))
  match key with
  | .config => return { g with config := some (← path? key value) }
  | .output => return { g with output := some (← path? key value) }
  | .format =>
    match PlanFormat.words.lookup value with
    | some format => return { g with format := some format }
    | .none => throw (.fault (.badValue key))
  | _ => return g

/-- The options with one more that takes no value. -/
def flag (g : Given) (scope : Scope) (key : Key) : Except Notice Given :=
  match key with
  | .help => .error (.help scope)
  | .version => .error .version
  | _ => if g.has key then .error (.fault (.repeated key)) else .ok { g with verbose := true }

end Given

/-- How far a scope has been read. -/
structure Progress where
  given : Given
  /-- The last option with its value, as long as nobody has looked at it; the value itself is
  missing as long as the next word may be it. -/
  pending : Option (Key × Option String)
deriving DecidableEq, Repr

namespace Progress

def start : Progress := ⟨.none, none⟩

/-- The option whose value the next word is. -/
def awaited? (p : Progress) : Option Key :=
  match p.pending with
  | some (key, none) => some key
  | _ => none

/-- The options that have been given, with the last one. -/
def settle (p : Progress) : Except Notice Given :=
  match p.pending with
  | none => .ok p.given
  | some (key, none) => .error (.fault (.badValue key))
  | some (key, some value) => p.given.put key value

/-- Reads on behind an option that takes a value. -/
def withValue (p : Progress) (key : Key) (attached : Option String) : Except Notice Progress := do
  let given ← p.settle
  match attached with
  | some value => return ⟨← given.put key value, none⟩
  | none => return ⟨given, some (key, none)⟩

/-- Reads on behind an option that takes no value. -/
def withFlag (p : Progress) (scope : Scope) (key : Key) : Except Notice Progress := do
  let given ← p.settle
  return ⟨← given.flag scope key, none⟩

/-- Reads on behind an option by its word. -/
def withLong (p : Progress) (scope : Scope) (name : String) (value : Option String) :
    Except Notice Progress :=
  match scope.long? name with
  | none => .error (.fault (.unexpected ("--" ++ name)))
  | some key =>
    if key.takesValue then p.withValue key value
    else if value.isSome then .error (.fault (.needlessValue key))
    else p.withFlag scope key

/-- The value that is attached to a letter. -/
def attached? : List Char → Option String
  | [] => none
  | '=' :: cs => some (String.ofList cs)
  | cs => some (String.ofList cs)

/-- Reads on behind options by their letters. -/
def withShort (scope : Scope) : List Char → Progress → Except Notice Progress
  | [], p => .ok p
  | c :: cs, p =>
    match scope.short? c with
    | none => .error (.fault (.unexpected (String.ofList ['-', c])))
    | some key =>
      if key.takesValue then p.withValue key (attached? cs)
      else do withShort scope cs (← p.withFlag scope key)

end Progress

/-- What is wrong with a word that is neither an option nor a command. -/
def stray (scope : Scope) (behindDashes : Bool) (word : String) : Fault :=
  if scope.subcommands.isEmpty then .unexpected word
  else if behindDashes && (scope.subcommands.lookup word).isSome then .unexpected word
  else .unknownCommand word

/-- The command that a word calls, unless the word is a value. -/
def Progress.command? (p : Progress) (scope : Scope) (word : String) : Option Scope :=
  match p.awaited? with
  | some _ => none
  | none => scope.subcommands.lookup word

/-- Reads a scope up to its end or to a command, which is returned with what follows it. -/
def readScope (scope : Scope) (p : Progress) :
    List String → Except Notice (Progress × Option (Scope × List String))
  | [] => .ok (p, none)
  | word :: words =>
    match p.command? scope word with
    | some command => .ok (p, some (command, words))
    | none =>
      match Word.ofText word with
      | .dashes =>
        match words with
        | [] => .ok (p, none)
        | next :: _ => .error (.fault (stray scope true next))
      | .long name value => do readScope scope (← p.withLong scope name value) words
      | .short letters => do readScope scope (← Progress.withShort scope letters p) words
      | .plain text =>
        match p.awaited? with
        | some key => readScope scope ⟨p.given, some (key, some text)⟩ words
        | none => .error (.fault (stray scope false text))

/-- What the words behind the command that explains others lead to. -/
def explained (scope : Scope) : List String → Notice
  | [] => .help scope
  | word :: words =>
    match scope.subcommands.lookup word with
    | some command => explained command words
    | none => .fault (.unknownCommand word)

/-- The command of a scope, if it is one that can be carried out. -/
def commandOf? (scope : Scope) (g : Given) : Option Command :=
  match scope with
  | .synth => some (.synth (g.format.getD .yaml) g.output)
  | .validate => some .validate
  | .url => some .url
  | .root | .help => none

/-- The path of the file with the settings where none is given. -/
def defaultConfig : String := "edge.yaml"

/-- What is wrong when there is no command. -/
def noCommand (g : Given) : Fault := if g = .none then .empty else .noCommand

/-- The invocation that the words of a command line stand for. -/
def invocation (words : List String) : Except Notice Invocation := do
  match ← readScope .root .start words with
  | (p, none) => throw (.fault (noCommand (← p.settle)))
  | (p, some (scope, words)) =>
    if scope = .help then
      throw (explained .root words)
    let (inner, _) ← readScope scope .start words
    let inner ← inner.settle
    let outer ← p.settle
    match commandOf? scope inner with
    | none => throw (.help scope)
    | some command =>
      return {
        command := command
        config := (inner.config <|> outer.config).getD defaultConfig
        verbose := inner.verbose || outer.verbose }

end Perimeter.CommandLine
