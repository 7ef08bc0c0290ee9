import Perimeter.CommandLine.Reader

/-!
The pages that explain the program and its commands, and the sentences on what is wrong with a
command line. The pages are made from the same tables by which a command line is read.
-/

namespace Perimeter.CommandLine

/-- The name under which the program is called. -/
def programName : String := "edgeplane"

def programVersion : String := "0.2.2"

/-- The line with the version. -/
def versionLine : String := programName ++ " " ++ programVersion ++ "\n"

namespace Scope

/-- The word of a command. -/
def word? : Scope → Option String
  | root => none
  | synth => some "synth"
  | validate => some "validate"
  | url => some "url"
  | help => some "help"

/-- What a command is for. -/
def purpose : Scope → String
  | root => "Compile a web application's network edge into a deployment plan"
  | synth => "Assemble and print the deployment plan"
  | validate => "Validate configuration without building anything"
  | url => "Print the public base URL"
  | help => "Print this message or the help of the given subcommand(s)"

/-- How a command is written. -/
def usage (s : Scope) : String :=
  let called := " ".intercalate (programName :: s.word?.toList)
  match s with
  | root => called ++ " [OPTIONS] <COMMAND>"
  | help => called ++ " [COMMAND]..."
  | _ => called ++ " [OPTIONS]"

end Scope

namespace Key

/-- The name of the value of an option in a page. -/
def valueName? (k : Key) : Option String :=
  if k.takesValue then some ("<" ++ k.long.toUpper ++ ">") else none

/-- How an option is written. -/
def form (k : Key) : String :=
  let letter := match k.short? with
    | some c => String.ofList ['-', c, ',', ' ']
    | none => "    "
  " ".intercalate ((letter ++ "--" ++ k.long) :: k.valueName?.toList)

/-- What an option is for. -/
def purpose : Key → String
  | config => "Configuration file path [default: " ++ defaultConfig ++ "]"
  | format => "Output format [default: yaml] [possible values: "
      ++ ", ".intercalate (PlanFormat.words.map (·.1)) ++ "]"
  | output => "Write to a file instead of stdout"
  | verbose => "Enable verbose logging"
  | help => "Print help"
  | version => "Print version"

end Key

/-- A table with two columns, indented. -/
def table (rows : List (String × String)) : String :=
  let width := rows.foldl (fun most (form, _) => max most form.length) 0
  String.join (rows.map fun (form, purpose) =>
    "  " ++ form ++ String.ofList (List.replicate (width - form.length + 2) ' ') ++ purpose ++ "\n")

/-- A table with a heading, if it has rows. -/
def titledTable? (heading : String) (rows : List (String × String)) : Option String :=
  if rows.isEmpty then none else some (heading ++ ":\n" ++ table rows)

/-- What a scope takes besides options and commands. -/
def operands : Scope → List (String × String)
  | .help => [("[COMMAND]...", "Print help for the subcommand(s)")]
  | _ => []

/-- The page that explains a scope. -/
def page (s : Scope) : String :=
  let opening := s.purpose ++ "\n\nUsage: " ++ s.usage ++ "\n"
  let commands := s.subcommands.map fun (word, command) => (word, command.purpose)
  let tables :=
    [titledTable? "Commands" commands, titledTable? "Arguments" (operands s),
      titledTable? "Options" (s.keys.map fun k => (k.form, k.purpose))]
  "\n".intercalate (opening :: tables.filterMap id)

/-- What is wrong with a command line, in words. -/
def Fault.message : Fault → String
  | empty => "nothing to do"
  | noCommand => "a command is missing"
  | unknownCommand word => "unrecognized command '" ++ word ++ "'"
  | unexpected word => "unexpected argument '" ++ word ++ "'"
  | badValue key => "invalid or missing value for '--" ++ key.long ++ "'"
  | repeated key => "'--" ++ key.long ++ "' cannot be used multiple times"
  | needlessValue key => "'--" ++ key.long ++ "' takes no value"

/-- The text of a notice. -/
def Notice.text : Notice → String
  | help scope => page scope
  | version => versionLine
  | fault .empty => page .root
  | fault f => "error: " ++ f.message ++ "\n\nUsage: " ++ Scope.root.usage ++ "\n"

end Perimeter.CommandLine
