import FilterQuery.CommandLine.Log
import FilterQuery.Compilation
import FilterQuery.Config.Settings
import FilterQuery.Request.Wire

/-!
# Events

What a run logs, stage by stage: the settings, the text it decodes, every report of the compilation
under the name it was made under, and the diagnostics that are not part of the output.
-/

namespace FilterQuery

/-- The name of a category as the log shows it. -/
def Category.logName : Category → String
  | .equality => "Match"
  | .substring => "Like"
  | .element => "ElemMatch"
  | .range => "Range"
  | .anyOf => "In"
  | .noneOf => "NotIn"
  | .allOf => "All"

def logMember (name member value : String) : String :=
  name ++ " \x7b " ++ member ++ ": " ++ value ++ " \x7d"

def Reason.logText : Reason → String
  | .blankKey => "BlankKey"
  | .blankPattern => "BlankPattern"
  | .missingValue => "MissingValue"
  | .unsupportedValue => "UnsupportedValue"
  | .emptyOperand operator => logMember "EmptyOperand" "operator" (Text.quoted operator)
  | .droppedElement index => logMember "DroppedElement" "index" (toString index)
  | .emptyRange => "EmptyRange"
  | .invalidPattern message => logMember "InvalidPattern" "message" (Text.quoted message)
  | .overwritten previous => logMember "Overwritten" "previous" previous.logName

namespace CommandLine

def reportEvent (d : Diagnostic) : Event :=
  ⟨.debug, "sieve_filter::compiler::sink", "filter clause degraded",
    [("clause", .plain d.category.name), ("key", .quoted d.key),
      ("diagnostic", .plain (d.reason.logText))]⟩

def startEvents (s : Config.Settings) : List Event :=
  [⟨.debug, "sieve::logging", "Logging initialized",
      [("level", .plain s.level), ("json", .switch s.json)]⟩,
    ⟨.debug, "sieve", "Configuration loaded",
      [("version", .plain s.version), ("required", .switch s.required)]⟩]

def decodeEvents (version : WireVersion) (text : String) : List Event :=
  let dropped := match Json.read text with
    | .ok body => Request.droppedClauses version body
    | .error _ => 0
  ⟨.debug, "sieve::commands", "Decoding params",
      [("version", .plain version.name), ("bytes", .number text.utf8ByteSize)]⟩
    :: if dropped == 0 then []
      else [⟨.warn, "sieve_filter::params::v2",
        "v2 attribute filters are not supported and were dropped", [("ignored", .number dropped)]⟩]

def compileEvents (r : Request) : List Event :=
  let draft := r.draft
  draft.reports.map reportEvent ++ [⟨.trace, "sieve_filter::compiler", "compiled filter params",
    [("version", .plain r.version.name), ("parsed", .number draft.parsed),
      ("clauses", .number draft.clauses.size), ("dropped", .number draft.diagnostics.length)]⟩]

/-- The event of a diagnostic that is not part of the output. -/
def diagnosticEvent (d : Diagnostic) : Event :=
  if d.isSkip then
    ⟨.debug, "sieve::commands", "Clause skipped", [("diagnostic", .plain d.message)]⟩
  else ⟨.warn, "sieve::commands", "Clause degraded", [("diagnostic", .plain d.message)]⟩

/-- The event of a request that passed the check. -/
def acceptedEvent (c : Compiled) : Event :=
  ⟨.info, "sieve::commands", "Params accepted",
    [("parsed", .number c.parsed), ("clauses", .number c.clauses.size)]⟩

end CommandLine

end FilterQuery
