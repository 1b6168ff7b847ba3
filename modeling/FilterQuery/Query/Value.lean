import FilterQuery.Json.Basic
import FilterQuery.KeyMap
import FilterQuery.Pattern
import FilterQuery.Request.Value

/-!
# Query documents

What a request is compiled to: paths of fields, each with a value or with a document of operators. A
document keeps its keys in ascending order, so that its rendering does not tell how it came about.
Patterns are rendered in extended JSON, which keeps them apart from texts.
-/

namespace FilterQuery

/-- A value of a query document. -/
inductive QueryValue where
  | null
  | bool (b : Bool)
  | int (n : Int64)
  | float (x : Float)
  | string (s : String)
  | regex (p : Pattern)
  | array (items : List QueryValue)
  | document (entries : List (String × QueryValue))
deriving Inhabited

abbrev QueryDocument := KeyMap QueryValue

namespace QueryValue

def ofDocument (doc : QueryDocument) : QueryValue := .document doc.entries

def operator (op : String) (value : QueryValue) : QueryValue := .document [(op, value)]

def document? : QueryValue → Option (List (String × QueryValue))
  | document entries => some entries
  | _ => none

def array? : QueryValue → Option (List QueryValue)
  | array items => some items
  | _ => none

def regex? : QueryValue → Option Pattern
  | regex p => some p
  | _ => none

/-! ### From JSON -/

/-- A number that the signed range does not hold is a float. -/
def ofNumber : Number → QueryValue
  | .int n => .int n
  | n => .float n.toFloat

mutual

/-- JSON as it stands: objects become documents, and nothing else changes its meaning. -/
def ofJson : Json → QueryValue
  | .null => .null
  | .bool b => .bool b
  | .number n => ofNumber n
  | .string s => .string s
  | .array items => .array (ofItems items)
  | .object members => .document (ofMembers members [])

def ofItems : List Json → List QueryValue
  | [] => []
  | item :: rest => ofJson item :: ofItems rest

/-- Puts members into a document; of two members of one name the later counts. -/
def ofMembers : List (String × Json) → List (String × QueryValue) → List (String × QueryValue)
  | [], entries => entries
  | (k, v) :: rest, entries => ofMembers rest (insertEntry k (ofJson v) entries)

end

/-! ### To JSON -/

def patternJson (p : Pattern) : Json :=
  .object [("$regularExpression",
    .object [("pattern", .string p.source), ("options", .string p.options)])]

mutual

def toJson : QueryValue → Json
  | .null => .null
  | .bool b => .bool b
  | .int n => .number (.int n)
  | .float x => .ofFloat x
  | .string s => .string s
  | .regex p => patternJson p
  | .array items => .array (toItems items)
  | .document entries => .object (toMembers entries)

def toItems : List QueryValue → List Json
  | [] => []
  | item :: rest => toJson item :: toItems rest

def toMembers : List (String × QueryValue) → List (String × Json)
  | [] => []
  | (k, v) :: rest => (k, toJson v) :: toMembers rest

end

/-! ### Patterns inside -/

mutual

/-- The patterns of a value, in the order of its items and keys. -/
def patterns : QueryValue → List Pattern
  | .regex p => [p]
  | .array items => itemPatterns items
  | .document entries => entryPatterns entries
  | _ => []

def itemPatterns : List QueryValue → List Pattern
  | [] => []
  | item :: rest => patterns item ++ itemPatterns rest

def entryPatterns : List (String × QueryValue) → List Pattern
  | [] => []
  | (_, v) :: rest => patterns v ++ entryPatterns rest

end

/-- Why patterns of the value are no regular expressions, one message for each such pattern. -/
def patternFaults [RegexLibrary] (v : QueryValue) : List String := v.patterns.filterMap Pattern.fault?

end QueryValue

def QueryDocument.toJson (doc : QueryDocument) : Json := .object (QueryValue.toMembers doc.entries)

end FilterQuery
