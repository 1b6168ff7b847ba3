import FilterQuery.Json.Basic

/-!
# Diagnostics

A malformed part of a request never stops its compilation. Every part that is skipped, or that comes
out as less than was asked for, leaves a diagnostic: the category of its clause, the key it belongs to
and the reason.
-/

namespace FilterQuery

inductive Category where
  | equality
  | substring
  | element
  | range
  | anyOf
  | noneOf
  | allOf
deriving DecidableEq, Repr

namespace Category

/-- All categories in the order in which they are compiled. A later one overwrites what an earlier one
wrote under the same key. -/
def order : List Category := [equality, substring, element, range, anyOf, noneOf, allOf]

/-- The name in messages, which is also the name of the list in a request. -/
def name : Category → String
  | equality => "match"
  | substring => "like"
  | element => "elem_match"
  | range => "range"
  | anyOf => "in"
  | noneOf => "nin"
  | allOf => "all"

def tag : Category → String
  | noneOf => "not_in"
  | category => category.name

def ofName? (name : String) : Option Category := order.find? (·.name == name)

end Category

/-- Why a part of a request is missing from the query document, or stands there in doubt. -/
inductive Reason where
  /-- The key has nothing but white space. The entry is skipped. -/
  | blankKey
  /-- The text to look for has nothing but white space. The entry is skipped. -/
  | blankPattern
  /-- There is no value at all. The entry is skipped. -/
  | missingValue
  /-- The value has a shape without meaning. -/
  | unsupportedValue
  /-- An operator stands without an operand. -/
  | emptyOperand (operator : String)
  /-- An element of a list has a shape without meaning. -/
  | droppedElement (index : Nat)
  /-- A range has no bounds. -/
  | emptyRange
  /-- A pattern is no regular expression. It is written all the same. -/
  | invalidPattern (message : String)
  /-- The clause took the place of an earlier one. -/
  | overwritten (previous : Category)
deriving DecidableEq, Repr

namespace Reason

def message : Reason → String
  | blankKey => "blank key, skipped"
  | blankPattern => "blank pattern, skipped"
  | missingValue => "missing value, skipped"
  | unsupportedValue => "unsupported value, no clause written"
  | emptyOperand operator => "operator " ++ operator ++ " has no operand, no clause written"
  | droppedElement index => "unsupported element at index " ++ toString index ++ " dropped"
  | emptyRange => "range has no bounds"
  | invalidPattern message => "pattern does not compile: " ++ message
  | overwritten previous => "overwrote earlier " ++ previous.name ++ " clause"

/-- Whether the entry was skipped before it could count. -/
def isSkip : Reason → Bool
  | blankKey | blankPattern | missingValue => true
  | _ => false

/-- The members of the reason in a serialized diagnostic. -/
def members : Reason → List (String × Json)
  | blankKey => [("reason", .string "blank_key")]
  | blankPattern => [("reason", .string "blank_pattern")]
  | missingValue => [("reason", .string "missing_value")]
  | unsupportedValue => [("reason", .string "unsupported_value")]
  | emptyOperand operator =>
    [("reason", .string "empty_operand"), ("operator", .string operator)]
  | droppedElement index => [("reason", .string "dropped_element"), ("index", .ofNat index)]
  | emptyRange => [("reason", .string "empty_range")]
  | invalidPattern message =>
    [("reason", .string "invalid_pattern"), ("message", .string message)]
  | overwritten previous =>
    [("reason", .string "overwritten"), ("previous", .string previous.tag)]

end Reason

/-- A part of a request that was skipped or degraded. -/
structure Diagnostic where
  category : Category
  key : String
  reason : Reason
deriving DecidableEq, Repr

namespace Diagnostic

def message (d : Diagnostic) : String :=
  d.category.name ++ " '" ++ d.key ++ "': " ++ d.reason.message

/-- Whether the entry was skipped before it could count. -/
def isSkip (d : Diagnostic) : Bool := d.reason.isSkip

def toJson (d : Diagnostic) : Json :=
  .object (("clause", .string d.category.tag) :: ("key", .string d.key) :: d.reason.members)

end Diagnostic

end FilterQuery
