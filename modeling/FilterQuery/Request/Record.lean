import FilterQuery.Json.Printer
import FilterQuery.Text.Quoted

/-!
# Reading records from JSON

A record is read from an object, whose members may come in any order and be unknown, or from an array
that lists the values in the order of the record's declaration. Absent members keep their default. The
first member that cannot be read decides the error.
-/

namespace FilterQuery

inductive Expected where
  | text
  | sequence
  | integer
  | unit
  | textOrObject
  | record (name : String)
deriving DecidableEq, Repr

def Expected.phrase : Expected → String
  | text => "a string"
  | sequence => "a sequence"
  | integer => "i64"
  | unit => "unit"
  | textOrObject => "string or map"
  | record name => "struct " ++ name

/-- Why a piece of JSON is not what a reader looks for. -/
inductive Mismatch where
  | type (found : Json) (expected : Expected)
  /-- A whole number beyond the signed range. -/
  | beyondRange (n : UInt64) (expected : Expected)
  /-- An array with more values than its record has members. -/
  | surplus (length : Nat)
  | unknownVersion (name : String)
  /-- An object that should have had a single member. -/
  | notSingle

def Json.mention : Json → String
  | .null => "null"
  | .bool true => "boolean `true`"
  | .bool false => "boolean `false`"
  | .number (.float x h) => "floating point `" ++ (Number.float x h).text ++ "`"
  | .number n => "integer `" ++ n.text ++ "`"
  | .string s => "string " ++ Text.quoted s
  | .array _ => "sequence"
  | .object _ => "map"

def Mismatch.message : Mismatch → String
  | type found expected => "invalid type: " ++ found.mention ++ ", expected " ++ expected.phrase
  | beyondRange n expected =>
    "invalid value: integer `" ++ toString n.toNat ++ "`, expected " ++ expected.phrase
  | surplus length =>
    "invalid length " ++ toString length ++ ", expected fewer elements in array"
  | unknownVersion name => "unknown variant `" ++ name ++ "`, expected `v2` or `v3`"
  | notSingle => "invalid value: map, expected map with a single key"

/-- Reads a value from JSON. -/
abbrev Decoder (α : Type) := Json → Except Mismatch α

namespace Decoder

variable {α β σ : Type}

def text : Decoder String
  | .string s => .ok s
  | found => .error (.type found .text)

def integer : Decoder Int64
  | .number (.int n) => .ok n
  | .number (.large n _) => .error (.beyondRange n .integer)
  | found => .error (.type found .integer)

def list (item : Decoder α) : Decoder (List α)
  | .array items => items.mapM item
  | found => .error (.type found .sequence)

/-- Null stands for nothing. -/
def optional (decode : Decoder α) : Decoder (Option α)
  | .null => .ok none
  | v => (decode v).map some

/-- Null stands for a default. -/
def orDefault (default : α) (decode : Decoder α) : Decoder α
  | .null => .ok default
  | v => decode v

def raw : Decoder Json := .ok

/-- A member of a record: its name, and how a record is changed by reading it. -/
structure Member (σ : Type) where
  name : String
  set : Json → σ → Except Mismatch σ

/-- The member that is read by `decode` and put into its place by `put`. -/
def member (name : String) (decode : Decoder α) (put : α → σ → σ) : Member σ :=
  ⟨name, fun v record => (decode v).map fun x => put x record⟩

/-- Reads the members of an object into a record, one by one; unknown ones are passed over. -/
def members (known : List (Member σ)) (object : List (String × Json)) (record : σ) :
    Except Mismatch σ :=
  object.foldlM (fun record (name, v) =>
    match known.find? (·.name == name) with
    | some m => m.set v record
    | none => .ok record) record

/-- Reads the values of an array into a record, in the order of its members. -/
def values (known : List (Member σ)) (items : List Json) (record : σ) : Except Mismatch σ :=
  (known.zip items).foldlM (fun record (m, v) => m.set v record) record

def record (name : String) (known : List (Member σ)) (default : σ) : Decoder σ
  | .object object => members known object default
  | .array items => do
    let record ← values known items default
    if known.length < items.length then .error (.surplus items.length) else .ok record
  | found => .error (.type found (.record name))

end Decoder

end FilterQuery
