import FilterQuery.Diagnostic
import FilterQuery.Query.Value

/-!
# From request values to query values

The same value means different things in different places. Under a field a text is a pattern for the
whole field, and a list of pairs is one document. As the operand of an operator a text stands for
itself, and a list is a list of values. What has no meaning yields nothing, and what is left out from
inside a value is recorded with the path of the field it belongs to.
-/

namespace FilterQuery

/-- Where a value stands: under a field or behind an operator. -/
inductive Place where
  | field
  | operand
deriving DecidableEq, Repr

def Place.under (key : String) : Place := if isOperator key then .operand else .field

def Place.text : Place → String → QueryValue
  | .field, s => .regex (.exact s)
  | .operand, s => .string s

def joinPath (path key : String) : String := if path = "" then key else path ++ "." ++ key

/-- The path of the value of a pair: operators apply to the field they stand under. -/
def pathUnder (path key : String) : String := if isOperator key then path else joinPath path key

/-- A part of a value that was left out, under the path of its field. -/
structure Issue where
  path : String
  reason : Reason
deriving DecidableEq, Repr

def RequestValue.fault : RequestValue → Reason
  | .pair key .null => if isOperator key then .emptyOperand key else .unsupportedValue
  | _ => .unsupportedValue

namespace RequestValue

mutual

/-- The meaning of a value in a place, if it has one. Parts that are left out are added to the issues;
that nothing comes of the value as a whole is for the caller to say. -/
def coerce (place : Place) (path : String) :
    RequestValue → List Issue → Option QueryValue × List Issue
  | .null, issues => (none, issues)
  | .bool b, issues => (some (.bool b), issues)
  | .int n, issues => (some (.int n), issues)
  | .float x, issues => (some (.float x), issues)
  | .string s, issues => (some (place.text s), issues)
  | .pair key value, issues =>
    let (inner, issues) := coerce (.under key) (pathUnder path key) value issues
    (inner.map (.operator key), issues)
  | .array items, issues =>
    match place with
    | .field =>
      let (doc, issues) := coercePairs path 0 items .empty issues
      (if doc.isEmpty then none else some (.ofDocument doc), issues)
    | .operand =>
      let (values, issues) := coerceElements path 0 items issues
      (some (.array values), issues)
  | .unsupported _, issues => (none, issues)

/-- Adds the pairs of a list to a document; the items from `index` on. -/
def coercePairs (path : String) (index : Nat) :
    List RequestValue → QueryDocument → List Issue → QueryDocument × List Issue
  | [], doc, issues => (doc, issues)
  | .pair key value :: rest, doc, issues =>
    match coerce (.under key) (pathUnder path key) value issues with
    | (some v, issues) => coercePairs path (index + 1) rest (doc.insert key v) issues
    | (none, issues) =>
      coercePairs path (index + 1) rest doc
        (issues ++ [⟨pathUnder path key, (RequestValue.pair key value).fault⟩])
  | _ :: rest, doc, issues =>
    coercePairs path (index + 1) rest doc (issues ++ [⟨path, .droppedElement index⟩])

/-- The values of the elements of a list, as under a field; the elements from `index` on. -/
def coerceElements (path : String) (index : Nat) :
    List RequestValue → List Issue → List QueryValue × List Issue
  | [], issues => ([], issues)
  | item :: rest, issues =>
    match coerce .field path item issues with
    | (some v, issues) =>
      let (values, issues) := coerceElements path (index + 1) rest issues
      (v :: values, issues)
    | (none, issues) =>
      coerceElements path (index + 1) rest (issues ++ [⟨path, .droppedElement index⟩])

end

def asField? (v : RequestValue) : Option QueryValue := (v.coerce .field "" []).1

def asOperand? (v : RequestValue) : Option QueryValue := (v.coerce .operand "" []).1

end RequestValue

end FilterQuery
