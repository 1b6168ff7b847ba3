import FilterQuery.CommandLine.Directive
import FilterQuery.Json.Printer
import FilterQuery.Text.Quoted

/-!
# Logging

Events have a level, a target and fields. A filter is a list of directives, each of which sets how much
is logged of the events that it covers; of several such directives the closest one counts. Directives
are taken from a text, and those that are not in order either spoil it or are left out with a complaint.
-/

namespace FilterQuery.CommandLine

inductive FieldValue where
  /-- Shown as it is. -/
  | plain (s : String)
  /-- Shown between quotes. -/
  | quoted (s : String)
  | number (n : Nat)
  | switch (b : Bool)
deriving DecidableEq, Repr

namespace FieldValue

def text : FieldValue → String
  | plain s => s
  | quoted s => Text.quoted s
  | number n => toString n
  | switch b => if b then "true" else "false"

def toJson : FieldValue → Json
  | plain s => .string s
  | quoted s => .string s
  | number n => .ofNat n
  | switch b => .bool b

end FieldValue

structure Event where
  level : Level
  target : String
  message : String
  fields : List (String × FieldValue) := []
deriving DecidableEq, Repr

namespace Event

def text (e : Event) : String :=
  e.level.name ++ " " ++ e.target ++ ": " ++ e.message
    ++ String.join (e.fields.map fun (name, v) => " " ++ name ++ "=" ++ v.text)

def json (e : Event) : String :=
  (Json.object [("level", .string e.level.name),
    ("fields", .object (("message", .string e.message) :: e.fields.map fun (name, v) =>
      (name, v.toJson))),
    ("target", .string e.target)]).compact

end Event

def Event.fieldNames (e : Event) : List String := "message" :: e.fields.map (·.1)

/-! ### Filters -/

/-- Which events are logged: the directives that can be for events. -/
structure LogFilter where
  directives : List Directive
deriving DecidableEq, Repr

namespace LogFilter

/-- The filter of some directives. Without any, errors are logged. -/
def ofDirectives (ds : List Directive) : LogFilter :=
  ⟨if ds.isEmpty then [{ most := Level.error.rank }] else ds.filter Directive.coversEvents⟩

/-- The directives in a text, which commas separate. -/
def split (s : String) : List String := (s.splitOn ",").filter (· != "")

/-- The filter of a text of which every directive has to be in order. -/
def strict (s : String) : Except DirectiveError LogFilter :=
  ((split s).mapM Directive.ofText).map ofDirectives

/-- What is said about a directive that is left out. -/
def complaint (s : String) (e : DirectiveError) : String := "ignoring `" ++ s ++ "`: " ++ e.message

/-- The filter of a text, without the directives that are not in order, and what is said about
those. -/
def lenient (s : String) : LogFilter × List String :=
  let read := (split s).map fun d => (d, Directive.ofText d)
  (ofDirectives (read.filterMap fun (_, d) => d.toOption),
    read.filterMap fun (text, d) =>
      match d with
      | .ok _ => none
      | .error e => some (complaint text e))

/-- The filter of a configured level, or of a list of directives in its place. -/
def ofLevel (level : String) : LogFilter × List String :=
  let level := Text.trim level
  if level.toList.any fun c => c == '=' || c == ',' then lenient level
  else lenient ("sieve=" ++ level ++ ",sieve_filter=" ++ level)

/-- The directive that decides on an event: the closest of those that cover it, and the last of
equals. -/
def deciding? (f : LogFilter) (e : Event) : Option Directive :=
  (f.directives.filter (·.covers e.target e.fieldNames)).foldl (fun best d =>
    match best with
    | some b => if d.isWider b then some b else some d
    | none => some d) none

def logs (f : LogFilter) (e : Event) : Bool :=
  match f.deciding? e with
  | some d => e.level.rank ≤ d.most
  | none => false

end LogFilter

end FilterQuery.CommandLine
