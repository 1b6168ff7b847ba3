import FilterQuery.Config.Lexeme
import FilterQuery.Config.Setting

/-!
# Settings from variables

Variables of the environment whose names start with the mark of the program are settings: the rest of the
name leads to the setting, and the value is taken for a switch or a number if it reads as one.
-/

namespace FilterQuery.Config

abbrev Variables := List (String × String)

namespace Variables

/-- What the names of variables for settings start with, in lower case. -/
def settingMark : String := "sieve__"

/-- A name with a dot for every two underscores. -/
def dotted : List Char → List Char
  | [] => []
  | '_' :: '_' :: rest => '.' :: dotted rest
  | c :: rest => c :: dotted rest

/-- The name of the setting that a variable is for. -/
def settingName? (name : String) : Option String :=
  let name := (Unicode.lower name).toList
  let mark := settingMark.toList
  if mark.isPrefixOf name then some (String.ofList (dotted (name.drop mark.length))) else none

/-- The value of a variable: a switch or a number if it reads as one, or else a text. -/
def scalarOf (s : String) : Scalar :=
  match Unicode.lower s with
  | "true" => .bool true
  | "false" => .bool false
  | _ =>
    match integer? s.toList, float? s.toList with
    | some n, _ => .int n
    | none, some x => .float x
    | none, none => .text s

def origin : String := "the environment"

/-- The settings that the variables make. Of several variables for one setting the last counts. -/
def settings (vars : Variables) : List (String × Setting) :=
  vars.foldl (fun found (name, value) =>
    match settingName? name with
    | some name => Datum.setEntry name (.scalar origin (scalarOf value)) found
    | none => found) []

end Variables

end FilterQuery.Config
