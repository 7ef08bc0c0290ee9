/-!
The command line: what a user can ask for, the options of each command, and what keeps a command
line from being carried out.
-/

namespace Perimeter

/-- In which format a plan is written. -/
inductive PlanFormat where
  | json
  | yaml
deriving DecidableEq, Repr

/-- The formats by their words. -/
def PlanFormat.words : List (String × PlanFormat) := [("json", .json), ("yaml", .yaml)]

/-- What a user asks for. -/
inductive Command where
  /-- Write the plan, to a file if there is a path. -/
  | synth (format : PlanFormat) (output : Option String)
  /-- Check the settings. -/
  | validate
  /-- Tell where the application is reached. -/
  | url
deriving DecidableEq, Repr

/-- A command and the options that every command has. -/
structure Invocation where
  command : Command
  /-- The path of the file with the settings. -/
  config : String
  /-- Whether to report more than the settings ask for. -/
  verbose : Bool
deriving DecidableEq, Repr

namespace CommandLine

/-- A part of a command line with options of its own. -/
inductive Scope where
  /-- What stands in front of a command. -/
  | root
  | synth
  | validate
  | url
  /-- The command that explains others. -/
  | help
deriving DecidableEq, Repr

namespace Scope

/-- The commands by their words, in the order in which they are explained. -/
def commands : List (String × Scope) :=
  [("synth", synth), ("validate", validate), ("url", url), ("help", help)]

/-- The commands that may stand in a scope. -/
def subcommands : Scope → List (String × Scope)
  | root => commands
  | _ => []

end Scope

/-- An option. -/
inductive Key where
  | config
  | format
  | output
  | verbose
  | help
  | version
deriving DecidableEq, Repr

namespace Key

/-- The word of an option. -/
def long : Key → String
  | config => "config"
  | format => "format"
  | output => "output"
  | verbose => "verbose"
  | help => "help"
  | version => "version"

/-- The letter of an option. -/
def short? : Key → Option Char
  | config => some 'c'
  | format => none
  | output => some 'o'
  | verbose => some 'v'
  | help => some 'h'
  | version => some 'V'

/-- Whether an option comes with a value. -/
def takesValue : Key → Bool
  | config | format | output => true
  | verbose | help | version => false

end Key

/-- The options of a scope, in the order in which they are explained. -/
def Scope.keys : Scope → List Key
  | root => [.config, .verbose, .help, .version]
  | synth => [.config, .format, .output, .verbose, .help]
  | validate => [.config, .verbose, .help]
  | url => [.config, .verbose, .help]
  | help => []

/-- The option of a scope with the given word. -/
def Scope.long? (s : Scope) (word : String) : Option Key :=
  s.keys.find? fun k => k.long == word

/-- The option of a scope with the given letter. -/
def Scope.short? (s : Scope) (letter : Char) : Option Key :=
  s.keys.find? fun k => k.short? == some letter

/-- What is wrong with a command line. -/
inductive Fault where
  /-- There is nothing on it. -/
  | empty
  /-- There are options but no command. -/
  | noCommand
  /-- A word stands where a command has to be. -/
  | unknownCommand (word : String)
  /-- A word or an option stands where it cannot be. -/
  | unexpected (word : String)
  /-- The value of an option is missing, empty or not one of those that are allowed. -/
  | badValue (key : Key)
  /-- An option is given a second time. -/
  | repeated (key : Key)
  /-- An option that takes no value has one. -/
  | needlessValue (key : Key)
deriving DecidableEq, Repr

/-- What a command line gives instead of an invocation. -/
inductive Notice where
  /-- The user wants a command explained. -/
  | help (scope : Scope)
  /-- The user wants to know the version. -/
  | version
  /-- The command line cannot be carried out. -/
  | fault (f : Fault)
deriving DecidableEq, Repr

/-- The code with which a run ends that only gives a notice. -/
def Notice.exitCode : Notice → Nat
  | help _ | version => 0
  | fault _ => 2

end CommandLine

end Perimeter
