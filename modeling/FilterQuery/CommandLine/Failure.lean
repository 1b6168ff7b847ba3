import FilterQuery.CommandLine.Arguments
import FilterQuery.Compilation
import FilterQuery.Config.Settings
import FilterQuery.Files
import FilterQuery.Request.Wire

/-!
# Failures

Why a command fails, and how the user is told: what the program was about, and then the reasons, from
the nearest to the last.
-/

namespace FilterQuery.CommandLine

/-- Why a command fails: in which stage, and for which reason. -/
inductive Failure where
  | settings (e : Config.SettingsError)
  | badSettings (message : String)
  | unreadable (name : String) (fault : ReadFault)
  | undecodable (e : DecodeError)
  | rejected (e : CompileError)

/-- What the user was about and the reasons, from the nearest to the last. -/
def Failure.chain (command : Command) : Failure → List String
  | settings e => ["Failed to load configuration", "Failed to read configuration", e.message]
  | badSettings message => [message]
  | unreadable name fault => ["Failed to read " ++ name, fault.message]
  | undecodable e => ["Failed to decode params", e.message, e.detail]
  | rejected e =>
    [match command with
      | .compile => "Failed to compile filter"
      | .check => "Check failed", e.message]

/-- The lines of a text behind a mark, below which those after the first are set in. -/
def setIn (mark : String) (text : String) : List String :=
  match text.splitOn "\n" with
  | [] => []
  | first :: rest =>
    (mark ++ first) :: rest.map (String.ofList (List.replicate mark.length ' ') ++ ·)

/-- A chain of reasons, numbered if there is more than one. -/
def chainLines : List String → List String
  | [] => []
  | context :: causes =>
    let marked := match causes with
      | [cause] => setIn "    " cause
      | causes => (causes.zipIdx.map fun (cause, i) => setIn ("    " ++ toString i ++ ": ") cause).flatten
    ("Error: " ++ context).splitOn "\n"
      ++ (if causes.isEmpty then [] else ["", "Caused by:"] ++ marked)

end FilterQuery.CommandLine
