import FilterQuery.Json.Basic

/-!
# The values of a request

A request may put any JSON where a clause has its value. `RequestValue.ofJson` sorts it into the shapes
that have a meaning; whatever has none is kept as it came.
-/

namespace FilterQuery

/-- A value of a request. -/
inductive RequestValue where
  | null
  | bool (b : Bool)
  | int (n : Int64)
  | float (x : Float)
  | string (s : String)
  /-- An object with a key: a value under a field below, or the operand of an operator. -/
  | pair (key : String) (value : RequestValue)
  | array (items : List RequestValue)
  /-- JSON without a meaning, such as an object without a key. -/
  | unsupported (raw : Json)
deriving Inhabited

/-- Whether a key names an operator and not a field: a dollar sign with something behind it. -/
def isOperator (key : String) : Bool :=
  match key.toList with
  | '$' :: _ :: _ => true
  | _ => false

def Number.toFloat : Number → Float
  | .int n => n.toFloat
  | .large n _ => n.toFloat
  | .float x _ => x

namespace RequestValue

def isNull : RequestValue → Bool
  | null => true
  | _ => false

/-- A number that the signed range does not hold is a float. -/
def ofNumber : Number → RequestValue
  | .int n => .int n
  | n => .float n.toFloat

mutual

/-- The value of a piece of JSON. An object is a pair if it has a key that is a text and not empty;
all its members but `key` and `value` are dropped then. -/
def ofJson : Json → RequestValue
  | .null => .null
  | .bool b => .bool b
  | .number n => ofNumber n
  | .string s => .string s
  | .array items => .array (ofItems items)
  | .object members =>
    match members.lookup "key" with
    | some (.string key) =>
      if key = "" then .unsupported (.object members) else .pair key (ofMember "value" members)
    | _ => .unsupported (.object members)

def ofItems : List Json → List RequestValue
  | [] => []
  | item :: rest => ofJson item :: ofItems rest

/-- The value of the first member of that name, and null if there is none. -/
def ofMember (name : String) : List (String × Json) → RequestValue
  | [] => .null
  | (k, v) :: rest => if k = name then ofJson v else ofMember name rest

end

mutual

def toJson : RequestValue → Json
  | .null => .null
  | .bool b => .bool b
  | .int n => .number (.int n)
  | .float x => .ofFloat x
  | .string s => .string s
  | .pair key value => .object [("key", .string key), ("value", toJson value)]
  | .array items => .array (toItems items)
  | .unsupported raw => raw

def toItems : List RequestValue → List Json
  | [] => []
  | item :: rest => toJson item :: toItems rest

end

theorem ofItems_eq_map (items : List Json) : ofItems items = items.map ofJson := by
  induction items with
  | nil => rfl
  | cons item rest ih => simp [ofItems, ih]

theorem toItems_eq_map (items : List RequestValue) : toItems items = items.map toJson := by
  induction items with
  | nil => rfl
  | cons item rest ih => simp [toItems, ih]

end RequestValue

end FilterQuery
