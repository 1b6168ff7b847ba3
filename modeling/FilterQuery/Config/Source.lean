import FilterQuery.Config.Format
import FilterQuery.Config.Settings
import FilterQuery.Config.VariableFile
import FilterQuery.Files

/-!
# Sources of settings

Which file a name stands for, and the settings in it. A file of exactly that name comes first, even if it
is in no known format; after that the endings of the formats are tried behind the name. What the file
says stands over the defaults, and over both stands the environment.
-/

namespace FilterQuery.Config

def nameParts (name : String) : List String :=
  (name.splitOn "/").filter fun part => part != "" && part != "."

/-- A name as messages show it: without parts that lead nowhere. -/
def shownName (name : String) : String :=
  (if name.startsWith "/" then "/" else "") ++ "/".intercalate (nameParts name)

/-- The ending of a file's name: what stands behind the last dot, unless the name starts with it. -/
def endingOf (name : String) : String :=
  match (nameParts name).getLast? with
  | none => ""
  | some last =>
    match (last.splitOn ".").reverse with
    | [_] => ""
    | [_, ""] => ""
    | ending :: _ => ending
    | [] => ""

/-- Whether an ending can be put behind a name. -/
def takesEnding (name : String) : Bool :=
  match (nameParts name).getLast? with
  | none => false
  | some last => last != ".."

/-- The files that a name without its ending may stand for, with their endings. -/
def candidates (name : String) : List (String × String) :=
  if takesEnding name then Format.endings.map fun ending => (shownName name ++ "." ++ ending, ending)
  else []

/-- The file that a name stands for, and its format. -/
def findFile (files : Files) (name : String) : Except SettingsError (String × Format) :=
  if files.hasRegular name then
    match Format.ofEnding? (endingOf name) with
    | some format => .ok (name, format)
    | none => .error (.unknownFormat name)
  else
    match (candidates name).find? fun (file, _) => files.hasRegular file with
    | some (file, ending) =>
      match Format.ofEnding? ending with
      | some format => .ok (file, format)
      | none => .error (.unknownFormat file)
    | none => .error (.missingFile name)

def fileEntries (files : Files) (file : String) (format : Format) :
    Except SettingsError (List (String × Setting)) :=
  let shown := shownName file
  let datum := match files file with
    | .ok f => format.read f.text
    | .error _ => none
  match datum with
  | none => .error (.malformedFile shown)
  | some datum =>
    match Setting.ofDatum shown datum with
    | .table _ es => .ok es
    | found => .error (.noTable found shown)

/-- The name of the configuration file if no other is asked for. -/
def usualFile : String := "sieve"

/-- The settings of the configuration file: the one that was asked for, or else the usual one if there
is one. -/
def configuredEntries (files : Files) (name : Option String) :
    Except SettingsError (List (String × Setting)) :=
  match findFile files (name.getD usualFile), name with
  | .ok (file, format), _ => fileEntries files file format
  | .error e, some _ => .error e
  | .error _, none => .ok []

/-- The settings: defaults, over them the file, and over that the environment. -/
def loadSettings (files : Files) (vars : Variables) (name : Option String) :
    Except SettingsError Settings := do
  let file ← configuredEntries files name
  Settings.ofSources [file, vars.settings]

end FilterQuery.Config
