import FilterQuery.CommandLine.Events
import FilterQuery.CommandLine.Failure
import FilterQuery.Listing
import FilterQuery.Regex.Engine

/-!
# Commands

`compile` prints the query document of a request, `check` whether the request has a clause that counts.
Both decode a text and compile the request in it; they differ in what they require and in what they
make of the outcome.
-/

namespace FilterQuery.CommandLine

/-- What `compile` puts into its output, and whether it requires a clause that counts. -/
structure CompileFlags where
  required : Bool := false
  diagnostics : Bool := false
  options : Bool := false
  compact : Bool := false
deriving DecidableEq, Repr

/-- The members that both commands print about a compilation. -/
def diagnosticMembers (c : Compiled) : List (String × Json) :=
  [("parsed", .ofNat c.parsed), ("diagnostics", .ofStrings (c.diagnostics.map Diagnostic.message))]

def compileMembers (flags : CompileFlags) (r : Request) (c : Compiled) : List (String × Json) :=
  let listing := Listing.ofRequest r
  [("filter", c.clauses.toJson)]
    ++ (if flags.options then ("sort", .object listing.sortDocument) :: listing.window else [])
    ++ (if flags.diagnostics then diagnosticMembers c else [])

/-- What comes of a text: the events on the way, and the members to print. -/
structure Result where
  events : List Event
  members : Except Failure (List (String × Json))

/-- Decodes a text and compiles the request in it; `finish` has the last word on a request that
compiles. -/
def process (version : WireVersion) (required : Bool)
    (finish : Request → Compiled → List Event × List (String × Json)) (text : String) : Result :=
  let decoding := decodeEvents version text
  match Request.ofText version text with
  | .error e => ⟨decoding, .error (.undecodable e)⟩
  | .ok r =>
    let events := decoding ++ compileEvents r
    match r.compile required with
    | .error e => ⟨events, .error (.rejected e)⟩
    | .ok c =>
      let (last, members) := finish r c
      ⟨events ++ last, .ok members⟩

/-- What `compile` makes of a text. Diagnostics that are not printed are logged. -/
def compileText (settings : Config.Settings) (flags : CompileFlags) (version : WireVersion)
    (text : String) : Result :=
  process version (flags.required || settings.required) (fun r c =>
    (if flags.diagnostics then [] else c.diagnostics.map diagnosticEvent,
      compileMembers flags r c)) text

def checkText (version : WireVersion) (text : String) : Result :=
  process version true (fun _ c => ([acceptedEvent c], diagnosticMembers c)) text

end FilterQuery.CommandLine
