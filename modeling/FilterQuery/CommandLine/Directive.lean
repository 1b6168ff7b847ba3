import FilterQuery.Decimal.Numeral
import FilterQuery.Regex.Engine
import FilterQuery.Text.Blank
import FilterQuery.Unicode.Property

/-!
# Log directives

A directive sets how much is logged of what it covers: events whose target starts like its own and that
have certain fields, or what happens within spans of work. No event of this program happens within a
span, so a directive for spans counts as one but covers nothing.

Blanks around a directive are looked past, but the places within it are then taken in the text with its
blanks. A directive behind blanks therefore reads as one that is shifted by them.
-/

namespace FilterQuery.CommandLine

inductive Level where
  | error
  | warn
  | info
  | debug
  | trace
deriving DecidableEq, Repr

namespace Level

def name : Level → String
  | error => "ERROR"
  | warn => "WARN"
  | info => "INFO"
  | debug => "DEBUG"
  | trace => "TRACE"

/-- How much has to be logged for an event of the level to be among it. -/
def rank : Level → Nat
  | error => 1
  | warn => 2
  | info => 3
  | debug => 4
  | trace => 5

end Level

inductive DirectiveError where
  | form
  | level
  /-- The value of a field is no pattern. -/
  | pattern
deriving DecidableEq, Repr

def DirectiveError.message : DirectiveError → String
  | form => "invalid filter directive"
  | level =>
    "error parsing level filter: expected one of \"off\", \"error\", \"warn\", \"info\", \"debug\", "
      ++ "\"trace\", or a number 0-5"
  | pattern => "invalid field filter: error building NFA"

/-- The rank that a level stands for, by its name or as a number. -/
def rankOf? (s : String) : Option Nat :=
  match Text.asciiLower s with
  | "off" => some 0
  | "error" => some 1
  | "warn" => some 2
  | "info" => some 3
  | "debug" => some 4
  | "trace" => some 5
  | "" => some 1
  | _ =>
    let digits := match s.toList with
      | '+' :: ds => ds
      | ds => ds
    if digits.isEmpty || !digits.all Char.isDigit then none
    else
      let n := digits.foldl (fun n c => 10 * n + (c.toNat - '0'.toNat)) 0
      if n ≤ 5 then some n else none

/-- A field that a directive asks for, and whether it asks for a value of it. -/
structure FieldFilter where
  name : String
  hasValue : Bool
deriving DecidableEq, Repr

structure Directive where
  /-- How targets start. -/
  target : Option String := none
  /-- The name of a span of work. -/
  span : Option String := none
  fields : List FieldFilter := []
  /-- The rank of the least important level that is logged; zero for none. -/
  most : Nat := 5
deriving DecidableEq, Repr

/-- Where in a directive a reader is, and at which place what it reads has started. -/
inductive DirectivePlace where
  | start
  /-- In a level, or in the start of a target. -/
  | first (start : Nat)
  | span (start : Nat)
  | field (start : Nat)
  | behindFields
  | behindSpan
  | level (start : Nat)
deriving DecidableEq, Repr

/-- A field filter: a name, or a name and a value, which is a truth value, a number or a pattern. -/
def FieldFilter.ofText (s : String) : Except DirectiveError FieldFilter :=
  match s.splitOn "=" with
  | name :: value :: _ =>
    if (Decimal.floatOf? value.toList).isSome then .ok ⟨name, true⟩
    else
      match (Pattern.mk value "").toExpr with
      | .ok _ => .ok ⟨name, true⟩
      | .error _ => .error .pattern
  | _ => .ok ⟨s, false⟩

namespace Directive

/-- A part of a text by the places of its bytes. -/
def slice (s : String) (first last : Nat) : Except DirectiveError String :=
  match String.fromUTF8? (s.toUTF8.extract first last) with
  | some part => .ok part
  | none => .error .form

/-- The rank behind an equals sign; nothing there asks for everything. -/
def rankBehind (s : String) : Except DirectiveError Nat :=
  if s = "" then .ok 5 else
    match rankOf? s with
    | some n => .ok n
    | none => .error .level

/-- Whether a level or a target may start like this. -/
def startsFirst (c : Char) : Bool := Unicode.isAlphabetic c || Unicode.isNumeric c || c ∈ ['-', ':', '_']

/-- Reads a character of a directive at its place in the text. -/
def step (text : String) (d : Directive) (i : Nat) (c : Char) :
    DirectivePlace → Except DirectiveError (Directive × DirectivePlace)
  | .start =>
    if c == '[' then .ok (d, .span (i + 1))
    else if startsFirst c then .ok (d, .first i)
    else .error .form
  | .first start =>
    if c == '=' then do return ({ d with target := some (← slice text start i) }, .level (i + 1))
    else if c == '[' then do return ({ d with target := some (← slice text start i) }, .span (i + 1))
    else .ok (d, .first start)
  | .span start =>
    if c == ']' then do return ({ d with span := some (← slice text start i) }, .behindSpan)
    else if c == '\x7b' then do
      let name ← slice text start i
      return ({ d with span := if name == "" then none else some name }, .field (i + 1))
    else .ok (d, .span start)
  | .field start =>
    if c == '\x7d' then do
      let field ← slice text start i
      if field == "" then throw .form
      return ({ d with fields := d.fields ++ [← FieldFilter.ofText field] }, .behindFields)
    else .ok (d, .field start)
  | .behindFields => if c == ']' then .ok (d, .behindSpan) else .error .form
  | .behindSpan => if c == '=' then .ok (d, .level (i + 1)) else .error .form
  | .level start => .ok (d, .level start)

/-- Reads the characters of a directive from a place on. -/
def readFrom (text : String) (d : Directive) (place : DirectivePlace) (i : Nat) :
    List Char → Except DirectiveError (Directive × DirectivePlace)
  | [] => .ok (d, place)
  | c :: rest => do
    let (d, place) ← d.step text i c place
    readFrom text d place (i + c.utf8Size) rest

/-- The directive of a text. A level or a target at the end reaches to the end of the text. -/
def ofText (text : String) : Except DirectiveError Directive := do
  let (d, place) ← readFrom text {} .start 0 (Text.trim text).toList
  match place with
  | .first start =>
    let word ← slice text start text.utf8ByteSize
    match rankOf? word with
    | some n => return { d with most := if word == "" then 5 else n }
    | none => return { d with target := some word }
  | .level start => return { d with most := ← rankBehind (← slice text start text.utf8ByteSize) }
  | .behindSpan => return d
  | _ => throw .form

/-- Whether the directive can be for events: it names no span, and no value of a field. -/
def coversEvents (d : Directive) : Bool := d.span.isNone && !d.fields.any (·.hasValue)

def fieldNames (d : Directive) : List String := d.fields.map (·.name)

/-- Whether the directive is for events with a target and some fields. -/
def covers (d : Directive) (target : String) (fields : List String) : Bool :=
  (match d.target with
    | none => true
    | some own => own.toList.isPrefixOf target.toList)
  && d.fieldNames.all fields.contains

def closeness (d : Directive) : Nat :=
  match d.target with
  | none => 0
  | some own => own.utf8ByteSize + 1

/-- Whether a directive is less close than another one that covers the same event: by its target, by the
number of its fields, and at last by the order of their names. -/
def isWider (d other : Directive) : Bool :=
  d.closeness < other.closeness
    || d.closeness == other.closeness
      && (d.fields.length < other.fields.length
        || d.fields.length == other.fields.length && d.fieldNames < other.fieldNames)

end Directive

end FilterQuery.CommandLine
