import FilterQuery.Json.Basic

/-!
# Configuration data

What a configuration file says, whichever notation it is written in: single values, lists of data and
tables of named data.
-/

namespace FilterQuery.Config

inductive Scalar where
  | unit
  | bool (b : Bool)
  | int (n : Int)
  | float (x : Float)
  | text (s : String)

inductive Datum where
  | scalar (value : Scalar)
  | list (items : List Datum)
  | table (entries : List (String × Datum))

instance : Inhabited Datum := ⟨.scalar .unit⟩

namespace Datum

def unit : Datum := .scalar .unit

def bool (b : Bool) : Datum := .scalar (.bool b)

def int (n : Int) : Datum := .scalar (.int n)

def float (x : Float) : Datum := .scalar (.float x)

def text (s : String) : Datum := .scalar (.text s)

/-- The whole numbers that a configuration can hold. -/
def isStorable (n : Int) : Bool := -0x8000000000000000 ≤ n && n < 0x8000000000000000

def int? (n : Int) : Option Datum := if isStorable n then some (.int n) else none

mutual

/-- What a JSON value says. A number that cannot be held as a whole one is a float. -/
def ofJson : Json → Datum
  | .null => .unit
  | .bool b => .bool b
  | .number (.int n) => .int n.toInt
  | .number (.large n _) => .float n.toFloat
  | .number (.float x _) => .float x
  | .string s => .text s
  | .array items => .list (ofItems items)
  | .object members => .table (ofMembers members)

def ofItems : List Json → List Datum
  | [] => []
  | v :: rest => ofJson v :: ofItems rest

def ofMembers : List (String × Json) → List (String × Datum)
  | [] => []
  | (k, v) :: rest => (k, ofJson v) :: ofMembers rest

end

def get? : Datum → String → Option Datum
  | .table entries, name => entries.lookup name
  | _, _ => none

/-- Puts an entry into its place: over the one of that name, or else at the end. -/
def setEntry {α : Type} (name : String) (value : α) : List (String × α) → List (String × α)
  | [] => [(name, value)]
  | (k, v) :: rest => if name = k then (k, value) :: rest else (k, v) :: setEntry name value rest

/-- A table with some entries, of which the last of each name counts. -/
def ofEntries (entries : List (String × Datum)) : Datum :=
  .table (entries.foldl (fun table (k, v) => setEntry k v table) [])

end Datum

end FilterQuery.Config
