import FilterQuery.Request.Basic
import FilterQuery.Text.Terminal

/-!
# Arguments

The command line: a command, its input and its options. Options with a value take it from the next
argument or from the same one, and a value is checked as soon as the argument after it asks for that.
What the user is told about a faulty command line is shown without terminal control, whatever the
arguments hold.
-/

namespace FilterQuery.CommandLine

inductive Command where
  | compile
  | check
deriving DecidableEq, Repr

def Command.ofName? : String → Option Command
  | "compile" => some .compile
  | "check" => some .check
  | _ => none

/-- What can be said on the command line besides the command. -/
inductive Parameter where
  | config
  | input
  | version
  | required
  | diagnostics
  | options
  | compact
deriving DecidableEq, Repr

namespace Parameter

def display : Parameter → String
  | config => "--config <CONFIG>"
  | input => "[INPUT]"
  | version => "--api-version <API_VERSION>"
  | required => "--required"
  | diagnostics => "--diagnostics"
  | options => "--options"
  | compact => "--compact"

def takesValue : Parameter → Bool
  | config | input | version => true
  | _ => false

/-- Whether the parameter can stand behind a command, or before any. -/
def allowed (command : Option Command) : Parameter → Bool
  | config => true
  | input | version => command.isSome
  | _ => command == some .compile

def ofLongName? : String → Option Parameter
  | "config" => some config
  | "api-version" => some version
  | "required" => some required
  | "diagnostics" => some diagnostics
  | "options" => some options
  | "compact" => some compact
  | _ => none

def ofLetter? : Char → Option Parameter
  | 'c' => some config
  | 'a' => some version
  | _ => none

end Parameter

inductive UsageError where
  | noArguments
  | missingCommand
  | unknownCommand (name : String)
  | unexpectedArgument (argument : String)
  | missingValue (p : Parameter)
  | unexpectedValue (value : String) (p : Parameter)
  | unknownVersion (value : String)
  | repeated (p : Parameter)
deriving DecidableEq, Repr

def summary : String := "Compile search/filter params into query documents"

def UsageError.message : UsageError → String
  | noArguments => summary
  | missingCommand => "error: 'sieve' requires a subcommand but one was not provided"
  | unknownCommand name =>
    "error: unrecognized subcommand '" ++ Text.withoutControl name ++ "'"
  | unexpectedArgument argument =>
    "error: unexpected argument '" ++ Text.withoutControl argument ++ "' found"
  | missingValue p => "error: a value is required for '" ++ p.display ++ "' but none was supplied"
  | unexpectedValue value p =>
    "error: unexpected value '" ++ Text.withoutControl value ++ "' for '" ++ p.display
      ++ "' found; no more were expected"
  | unknownVersion value =>
    "error: invalid value '" ++ Text.withoutControl value ++ "' for '" ++ Parameter.version.display
      ++ "': " ++ Text.withoutControl (WireVersion.unknownMessage value)
  | repeated p => "error: the argument '" ++ p.display ++ "' cannot be used multiple times"

inductive Invocation where
  | showHelp
  | showVersion
  | run (command : Command) (values : List (Parameter × String))
deriving DecidableEq, Repr

/-! ### Reading -/

inductive Form where
  /-- Two dashes, behind which everything is a plain word. -/
  | escape
  | long (name : String) (value : Option String)
  | short (letter : Char) (rest : String)
  | word
deriving DecidableEq, Repr

def Form.of (argument : String) : Form :=
  match argument.toList with
  | ['-', '-'] => .escape
  | '-' :: '-' :: name =>
    match name.dropWhile (· != '=') with
    | [] => .long (String.ofList name) none
    | _ :: value => .long (String.ofList (name.takeWhile (· != '='))) (some (String.ofList value))
  | '-' :: letter :: rest => .short letter (String.ofList rest)
  | _ => .word

/-- What has been read of the arguments of a command, or of those before it. -/
structure Reading where
  /-- The parameters that are done with. -/
  settled : List (Parameter × String) := []
  /-- The last parameter that takes a value, and its value once it has come. -/
  pending : Option (Parameter × Option String) := none
  /-- Whether only plain words follow. -/
  escaped : Bool := false

inductive Step where
  | more (r : Reading)
  /-- The argument names a command. -/
  | command (c : Command)
  /-- The argument asks for help on what the arguments behind it name. -/
  | helpOn
  | showHelp
  | showVersion

namespace Reading

def checkValue (p : Parameter) (value : String) : Except UsageError String :=
  if p == .version then
    if (WireVersion.ofText? value).isSome then .ok value else .error (.unknownVersion value)
  else if value == "" && p.takesValue then .error (.missingValue p)
  else .ok value

/-- Is done with a parameter: it has a value if it takes one, it is new, and the value is in order. -/
def settle (r : Reading) (p : Parameter) (value : Option String) : Except UsageError Reading :=
  if value.isNone && p.takesValue then .error (.missingValue p)
  else if r.settled.any (·.1 == p) then .error (.repeated p)
  else do
    let value ← checkValue p (value.getD "")
    return { r with settled := r.settled ++ [(p, value)] }

/-- Is done with the last parameter that takes a value. -/
def settlePending (r : Reading) : Except UsageError Reading :=
  match r.pending with
  | none => .ok r
  | some (p, value) => { r with pending := none }.settle p value

/-- Reads a parameter that may have its value in the same argument. -/
def parameter (r : Reading) (p : Parameter) (value : Option String) : Except UsageError Reading :=
  match p.takesValue, value with
  | false, some value => .error (.unexpectedValue value p)
  | true, none => do
    let r ← r.settlePending
    return { r with pending := some (p, none) }
  | _, value => do
    let r ← r.settlePending
    r.settle p value

/-- Reads a word: the name of a command, or the input of one. -/
def word (r : Reading) (command : Option Command) (argument : String) : Except UsageError Step :=
  match command with
  | none =>
    match Command.ofName? argument, argument == "help" with
    | none, false => .error (.unknownCommand argument)
    | found, _ =>
      if r.escaped then .error (.unexpectedArgument argument)
      else .ok ((found.map Step.command).getD .helpOn)
  | some _ =>
    if r.settled.any (·.1 == .input) || r.pending.any (·.1 == .input) then
      .error (.unexpectedArgument argument)
    else do
      let r ← r.settlePending
      return .more { r with pending := some (.input, some argument) }

/-- Reads an argument behind a command, or before any. -/
def step (r : Reading) (command : Option Command) (argument : String) : Except UsageError Step :=
  let form := if r.escaped then Form.word else Form.of argument
  let known (p : Option Parameter) : Option Parameter := p.filter (·.allowed command)
  match r.pending, form with
  | some (p, none), .word =>
    if r.escaped then r.word command argument
    else .ok (.more { r with pending := some (p, some argument) })
  | _, .word => r.word command argument
  | _, .escape => .ok (.more { r with escaped := true })
  | _, .long name value =>
    match known (Parameter.ofLongName? name) with
    | some p => (r.parameter p value).map .more
    | none =>
      if name == "help" then r.settlePending.map fun _ => .showHelp
      else if name == "version" && command.isNone then r.settlePending.map fun _ => .showVersion
      else .error (.unexpectedArgument ("--" ++ name))
  | _, .short letter rest =>
    match known (Parameter.ofLetter? letter) with
    | some p =>
      let value := match rest.toList with
        | [] => none
        | '=' :: value => some (String.ofList value)
        | value => some (String.ofList value)
      (r.parameter p value).map .more
    | none =>
      if letter == 'h' then r.settlePending.map fun _ => .showHelp
      else if letter == 'V' && command.isNone then r.settlePending.map fun _ => .showVersion
      else .error (.unexpectedArgument (String.ofList ['-', letter]))

/-- Reads the arguments behind a command; `before` are the parameters in front of it. -/
def readCommand (before : Reading) (command : Command) (r : Reading) :
    List String → Except UsageError Invocation
  | [] => do
    let r ← r.settlePending
    let before ← before.settlePending
    return .run command (r.settled ++ before.settled)
  | argument :: rest => do
    match ← r.step (some command) argument with
    | .more r => readCommand before command r rest
    | .showHelp => return .showHelp
    | .showVersion => return .showVersion
    | .command _ | .helpOn => .error (.unexpectedArgument argument)

/-- Reads the arguments that help is asked on: none, or one that names a command or help itself. -/
def readHelp : List String → Except UsageError Invocation
  | [] => .ok .showHelp
  | name :: rest =>
    if (Command.ofName? name).isNone && name != "help" then .error (.unknownCommand name)
    else
      match rest with
      | [] => .ok .showHelp
      | below :: _ => .error (.unknownCommand below)

/-- Reads the arguments before a command, and all behind it. -/
def readAll (r : Reading) : List String → Except UsageError Invocation
  | [] => do
    let r ← r.settlePending
    .error (if r.settled.isEmpty then .noArguments else .missingCommand)
  | argument :: rest => do
    match ← r.step none argument with
    | .more r => readAll r rest
    | .command c => readCommand r c {} rest
    | .helpOn => readHelp rest
    | .showHelp => return .showHelp
    | .showVersion => return .showVersion

end Reading

def Invocation.ofArguments (arguments : List String) : Except UsageError Invocation :=
  Reading.readAll {} arguments

end FilterQuery.CommandLine
