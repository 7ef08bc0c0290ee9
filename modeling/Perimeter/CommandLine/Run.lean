import Perimeter.Assembly
import Perimeter.CommandLine.Help
import Perimeter.EnvFile.Basic
import Perimeter.Encoding.Event
import Perimeter.Encoding.Plan
import Perimeter.Filter.Basic
import Perimeter.Json.Writer
import Perimeter.Route.Services
import Perimeter.Settings.Load
import Perimeter.Yaml.Writer

/-!
A run of the program, from what it finds to what it leaves behind. A run that fails names its
cause; what it reported until then stays reported.
-/

namespace Perimeter

/-- The text of a document in a format. -/
def PlanFormat.render : PlanFormat → Document → String
  | json, d => Json.text d
  | yaml, d => Yaml.text d

namespace CommandLine

/-- What a run finds. -/
structure Surroundings where
  /-- The content of the file at a path. -/
  files : String → Option String
  /-- Whether a file can be written at a path. -/
  writable : String → Bool
  env : Environment
  /-- The content of the file with further variables. -/
  envFile : Option String
  /-- The name of the operation, which no other run has. -/
  operation : String
  formats : Settings.Formats := {}

/-- Why a run fails. -/
inductive Failure where
  | settingsNotLoaded (path : String)
  | planNotWritten (path : String)
  | refused (e : Error)
deriving DecidableEq, Repr

/-- The text of a failure. -/
def Failure.message : Failure → String
  | settingsNotLoaded path => "Failed to load configuration from " ++ path
  | planNotWritten path => "Failed to write plan to " ++ path
  | refused e => e.message

/-- What a command puts out. -/
inductive Output where
  /-- A text on the standard output, with a line end behind it. -/
  | line (text : String)
  /-- A file. -/
  | file (path content : String)
deriving DecidableEq, Repr

/-- What a command comes to, and the events on the way. -/
structure Conduct where
  events : List Event
  result : Except Failure Output

/-- The settings in force for an invocation. -/
def settings (files : String → Option String) (env : Environment) (i : Invocation)
    (formats : Settings.Formats := {}) : Except Failure Settings :=
  match Settings.load files (some i.config) env formats with
  | .error _ => .error (.settingsNotLoaded i.config)
  | .ok s =>
    .ok (if i.verbose then { s with report := { s.report with level := "debug" } } else s)

/-- The variable by which the operator names a filter that wins over the settings. -/
def filterVariable : String := "RUST_LOG"

/-- Continues with the plan of settings, if they give one. -/
def withPlan (s : Settings) (k : Plan → Conduct) : Conduct :=
  match Plan.assemble s Route.services with
  | .error e => ⟨s.warnings, .error (.refused e)⟩
  | .ok p => { k p with events := p.events s ++ (k p).events }

/-- Writes a plan to the place that is asked for. -/
def writePlan (writable : String → Bool) (output : Option String) (text : String) : Conduct :=
  match output with
  | none => ⟨[], .ok (.line text)⟩
  | some path =>
    if writable path then ⟨[.planWritten], .ok (.file path text)⟩
    else ⟨[], .error (.planNotWritten path)⟩

/-- Carries out a command. -/
def perform (writable : String → Bool) (s : Settings) : Command → Conduct
  | .validate =>
    match s.validate with
    | .ok () => ⟨s.warnings, .ok (.line "Configuration is valid")⟩
    | .error e => ⟨[], .error (.refused e)⟩
  | .url => withPlan s fun p => ⟨[], .ok (.line p.baseUrl)⟩
  | .synth format output =>
    withPlan s fun p => writePlan writable output (format.render p.toDocument)

/-- What a run leaves behind. -/
structure Outcome where
  exitCode : Nat
  stdout : String
  /-- The file that is written. -/
  file : Option (String × String)
  /-- The events that are shown. -/
  events : List Event
  /-- Whether events are shown as JSON. -/
  asJson : Bool
  /-- What is said last on the standard error output. -/
  complaint : Option String
  /-- Whether all of the file with further variables could be read. -/
  envFileRead : Bool

namespace Outcome

/-- The outcome of a run that ends with a notice. -/
def ofNotice (envFileRead : Bool) (n : Notice) : Outcome :=
  if n.exitCode = 0 then ⟨0, n.text, none, [], false, none, envFileRead⟩
  else ⟨n.exitCode, "", none, [], false, some n.text, envFileRead⟩

/-- The outcome of a run that fails. -/
def ofFailure (envFileRead : Bool) (events : List Event) (asJson : Bool) (f : Failure) : Outcome :=
  ⟨1, "", none, events, asJson, some ("Error: " ++ f.message ++ "\n"), envFileRead⟩

/-- The outcome of a run whose command puts something out. -/
def ofOutput (envFileRead : Bool) (events : List Event) (asJson : Bool) : Output → Outcome
  | .line text => ⟨0, text ++ "\n", none, events, asJson, none, envFileRead⟩
  | .file path content => ⟨0, "", some (path, content), events, asJson, none, envFileRead⟩

/-- What is said about a file with variables that cannot be read. -/
def envFileWarning : String := "Warning: Error loading .env file: a line cannot be read\n"

/-- All that is put out on the standard error output. -/
def stderr (o : Outcome) : String :=
  (if o.envFileRead then "" else envFileWarning)
    ++ String.join (o.events.map fun e => e.report o.asJson ++ "\n") ++ o.complaint.getD ""

end Outcome

/-- Runs an invocation. -/
def runInvocation (w : Surroundings) (env : Environment) (envFileRead : Bool) (i : Invocation) :
    Outcome :=
  match settings w.files env i w.formats with
  | .error f => .ofFailure envFileRead [] false f
  | .ok s =>
    match Filter.ofSettings (env.get? filterVariable) s with
    | .error e => .ofFailure envFileRead [] false (.refused e)
    | .ok filter =>
      let conduct := perform w.writable s i.command
      let assembly : Assembly := ⟨s, Route.services.length, w.operation⟩
      let events := (.settingsInBrief s.summary :: conduct.events).filter fun e =>
        filter.shows (assembly.spans e) e
      match conduct.result with
      | .error f => .ofFailure envFileRead events s.report.json f
      | .ok output => .ofOutput envFileRead events s.report.json output

/-- Runs the program on the words of a command line. -/
def run (w : Surroundings) (words : List String) : Outcome :=
  let (env, envFileRead) := match w.envFile with
    | none => (w.env, true)
    | some content => EnvFile.apply w.env content
  match invocation words with
  | .error n => .ofNotice envFileRead n
  | .ok i => runInvocation w env envFileRead i

end CommandLine

end Perimeter
