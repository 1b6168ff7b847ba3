import FilterQuery.Config.Path
import FilterQuery.Request.Basic

/-!
# Settings

What can be set, and how it is taken from a tree of settings. The settings come in two groups; a group is
a table with an entry for each setting, or a list that has them in their order.
-/

namespace FilterQuery.Config

structure Group where
  /-- The entry of the root that holds the group. -/
  key : String
  /-- The name of the group in messages. -/
  title : String
  /-- The names of the settings, in their order. -/
  names : List String
deriving DecidableEq, Repr

def compileGroup : Group := ⟨"compile", "CompileConfig", ["required", "version", "pretty"]⟩

def loggingGroup : Group := ⟨"logging", "LoggingConfig", ["level", "json"]⟩

inductive SettingsError where
  | missingFile (name : String)
  | unknownFormat (name : String)
  | malformedFile (name : String)
  /-- A file that holds no table. -/
  | noTable (found : Setting) (file : String)
  /-- A group that is a single value. -/
  | noGroup (found : Setting) (group : Group)
  /-- A group without one of its settings. -/
  | missingEntry (name : String)
  /-- A group that is too short a list. -/
  | shortGroup (length : Nat) (group : Group)
  | type (found : Setting) (expected key : String)

namespace SettingsError

/-- A value that was found instead of another. -/
def mismatch (found expected : String) : String :=
  "invalid type: " ++ found ++ ", expected " ++ expected

/-- The end of a message about something from an origin. -/
def inOrigin : Option String → String
  | some origin => " in " ++ origin
  | none => ""

/-- A value as it is spoken of where it stands for all settings. -/
def rootMention : Setting → String
  | .scalar _ (.int n) => "64-bit integer `" ++ toString n ++ "`"
  | .scalar _ (.float x) => "floating point `" ++ Setting.layout.write x ++ "`"
  | found => found.mention

def message : SettingsError → String
  | missingFile name => "configuration file \"" ++ name ++ "\" not found"
  | unknownFormat name =>
    "configuration file \"" ++ name ++ "\" is not of a registered file format"
  | malformedFile name => "configuration file \"" ++ name ++ "\" cannot be read"
  | noTable found file => mismatch (rootMention found) "a map" ++ " in " ++ file ++ " in " ++ file
  | noGroup found group => mismatch found.mention ("struct " ++ group.title)
  | missingEntry name => "missing field `" ++ name ++ "`"
  | shortGroup length group =>
    "invalid length " ++ toString length ++ ", expected struct " ++ group.title ++ " with "
      ++ toString group.names.length ++ " elements"
  | type found expected key =>
    mismatch found.mention expected ++ " for key `" ++ key ++ "`" ++ inOrigin found.origin

end SettingsError

structure Settings where
  /-- Whether a request has to have a clause that counts. -/
  required : Bool := false
  /-- The wire version of requests. -/
  version : String := "v3"
  /-- Whether the output has a line for each member. -/
  pretty : Bool := true
  /-- How much is logged. -/
  level : String := "warn"
  /-- Whether log lines are JSON. -/
  json : Bool := false
deriving DecidableEq, Repr

namespace Group

/-- A setting of the group, by its place, and its full name. -/
def member (g : Group) (i : Nat) : Setting → Except SettingsError (String × Setting)
  | .table _ es =>
    let name := g.names.getD i ""
    match es.lookup name with
    | some v => .ok (g.key ++ "." ++ name, v)
    | none => .error (.missingEntry name)
  | .list _ xs =>
    match xs[i]? with
    | some v => .ok (g.key ++ "[" ++ toString i ++ "]", v)
    | none => .error (.shortGroup i g)
  | found => .error (.noGroup found g)

def switch (g : Group) (i : Nat) (s : Setting) : Except SettingsError Bool := do
  let (key, v) ← g.member i s
  match v.switch? with
  | some b => return b
  | none => .error (.type v.compared "a boolean" key)

def text (g : Group) (i : Nat) (s : Setting) : Except SettingsError String := do
  let (key, v) ← g.member i s
  match v.text? with
  | some t => return t
  | none => .error (.type v "a string" key)

def within (g : Group) (root : Setting) : Except SettingsError Setting :=
  match root.get? g.key with
  | some s => .ok s
  | none => .error (.missingEntry g.key)

end Group

namespace Settings

def toSetting (s : Settings) : Setting :=
  let leaf (v : Scalar) : Setting := .scalar none v
  .table none [
    (compileGroup.key, .table none [("required", leaf (.bool s.required)),
      ("version", leaf (.text s.version)), ("pretty", leaf (.bool s.pretty))]),
    (loggingGroup.key, .table none [("level", leaf (.text s.level)), ("json", leaf (.bool s.json))])]

def ofSetting (root : Setting) : Except SettingsError Settings := do
  let compile ← compileGroup.within root
  let required ← compileGroup.switch 0 compile
  let version ← compileGroup.text 1 compile
  let pretty ← compileGroup.switch 2 compile
  let logging ← loggingGroup.within root
  let level ← loggingGroup.text 0 logging
  let json ← loggingGroup.switch 1 logging
  return { required, version, pretty, level, json }

/-- The settings of several sources over the defaults. The later sources count more, and all sources
together are one tree before they meet the defaults. -/
def ofSources (sources : List (List (String × Setting))) : Except SettingsError Settings :=
  let given := sources.foldl (fun root entries => root.assignAll entries) Setting.empty
  ofSetting ((toSetting {}).assignAll given.entries)

/-- What is wrong with the settings, if anything is. -/
def fault? (s : Settings) : Option String :=
  if (WireVersion.ofText? s.version).isNone then some (WireVersion.unknownMessage s.version)
  else if Text.isBlank s.level then some "logging.level must not be empty"
  else none

def wireVersion (s : Settings) : WireVersion := (WireVersion.ofText? s.version).getD .v3

end Settings

end FilterQuery.Config
