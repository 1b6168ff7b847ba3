import FilterQuery.CommandLine.Commands
import FilterQuery.Config.Source

/-!
# Runs

A run is a function of the arguments and of what surrounds the program. It ends with an exit code, an
output, and messages for the standard error stream.
-/

namespace FilterQuery.CommandLine

structure Surroundings where
  files : Files
  environment : Config.Variables
  /-- The bytes of the standard input. -/
  input : ByteArray

structure Outcome where
  exit : UInt32
  output : String := ""
  /-- What goes to the standard error stream, each with a line end behind it. -/
  messages : List String := []
deriving DecidableEq, Repr

def render (pretty : Bool) (members : List (String × Json)) : String :=
  if pretty then (Json.object members).pretty else (Json.object members).compact

/-- The text of the request: a file's, or that of the standard input. -/
def readInput (s : Surroundings) (input : Option String) : Except Failure String :=
  match input.filter (· != "-") with
  | some name =>
    match s.files name with
    | .ok file => .ok file.text
    | .error fault => .error (.unreadable name fault)
  | none =>
    match String.fromUTF8? s.input with
    | some text => .ok text
    | none => .error (.unreadable "stdin" .notText)

/-- The filter of the log: the environment's if it has one that is in order, or else the
configured one. -/
def logFilter (env : Config.Variables) (settings : Config.Settings) : LogFilter × List String :=
  match (env.lookup "RUST_LOG").map LogFilter.strict with
  | some (.ok filter) => (filter, [])
  | _ => LogFilter.ofLevel settings.level

def logLines (filter : LogFilter) (json : Bool) (events : List Event) : List String :=
  (events.filter filter.logs).flatMap fun e => (if json then e.json else e.text).splitOn "\n"

/-- The outcome of a failure, behind the lines that were logged before. -/
def failed (command : Command) (logged : List String) (f : Failure) : Outcome :=
  { exit := 1, messages := logged ++ chainLines (f.chain command) }

/-- Runs a command with its parameters under some settings. -/
def runWith (s : Surroundings) (env : Config.Variables) (settings : Config.Settings)
    (command : Command) (values : List (Parameter × String)) : Outcome :=
  let has (p : Parameter) : Bool := (values.lookup p).isSome
  let flags : CompileFlags := ⟨has .required, has .diagnostics, has .options, has .compact⟩
  let version := ((values.lookup .version).bind WireVersion.ofText?).getD settings.wireVersion
  let (filter, complaints) := logFilter env settings
  let log (events : List Event) : List String :=
    complaints ++ logLines filter settings.json (startEvents settings ++ events)
  match readInput s (values.lookup .input) with
  | .error f => failed command (log []) f
  | .ok text =>
    let result := match command with
      | .compile => compileText settings flags version text
      | .check => checkText version text
    match result.members with
    | .error f => failed command (log result.events) f
    | .ok members =>
      { exit := 0
        output := render (settings.pretty && !flags.compact) members ++ "\n"
        messages := log result.events }

def runCommand (s : Surroundings) (command : Command) (values : List (Parameter × String)) :
    Outcome :=
  let env := match s.files ".env" with
    | .ok file => s.environment.withFile file.text
    | .error _ => s.environment
  match Config.loadSettings s.files env (values.lookup .config) with
  | .error e => failed command [] (.settings e)
  | .ok settings =>
    match settings.fault? with
    | some message => failed command [] (.badSettings message)
    | none => runWith s env settings command values

def run (s : Surroundings) (arguments : List String) : Outcome :=
  match Invocation.ofArguments arguments with
  | .error e => { exit := 2, messages := [e.message] }
  | .ok .showHelp => { exit := 0, output := summary ++ "\n" }
  | .ok .showVersion => { exit := 0, output := "sieve 0.1.0\n" }
  | .ok (.run command values) => runCommand s command values

def filesToRead (arguments : List String) : List String :=
  match Invocation.ofArguments arguments with
  | .ok (.run _ values) =>
    let config := (values.lookup .config).getD Config.usualFile
    ".env" :: config :: (Config.candidates config).map (·.1) ++ (values.lookup .input).toList
  | _ => []

/-- Whether a run may read the standard input. -/
def readsInput (arguments : List String) : Bool :=
  match Invocation.ofArguments arguments with
  | .ok (.run _ values) => ((values.lookup .input).filter (· != "-")).isNone
  | _ => false

end FilterQuery.CommandLine
