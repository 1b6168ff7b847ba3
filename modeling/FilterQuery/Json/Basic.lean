/-!
# JSON values

Values with the numbers a 64-bit reader tells apart and with objects that keep their members in the
order they were written. `get?` is the view of an object's members. Equality can be decided, so a value
that was computed can be compared with one that is written down.
-/

namespace FilterQuery

/-- A JSON number. Whole numbers are exact as long as 64 bits hold them; all others are finite
floats. -/
inductive Number where
  | int (n : Int64)
  /-- A whole number above the signed range, which ends below 2⁶³. -/
  | large (n : UInt64) (above : 0x8000000000000000 ≤ n.toNat)
  | float (x : Float) (finite : x.isFinite = true)
deriving DecidableEq

namespace Number

def ofFloat? (x : Float) : Option Number :=
  if h : x.isFinite = true then some (.float x h) else none

def ofUInt64 (n : UInt64) : Number :=
  if h : 0x8000000000000000 ≤ n.toNat then .large n h else .int n.toInt64

def ofNat (n : Nat) : Number := .int (Int64.ofNat n)

end Number

inductive Json where
  | null
  | bool (b : Bool)
  | number (n : Number)
  | string (s : String)
  | array (items : List Json)
  | object (members : List (String × Json))
deriving Inhabited

namespace Json

mutual

/-- Whether two values are the same, the order of members included. -/
def same : Json → Json → Bool
  | null, null => true
  | bool b, bool b' => b == b'
  | number n, number n' => n == n'
  | string s, string s' => s == s'
  | array items, array items' => sameItems items items'
  | object members, object members' => sameMembers members members'
  | _, _ => false

def sameItems : List Json → List Json → Bool
  | [], [] => true
  | v :: items, v' :: items' => same v v' && sameItems items items'
  | _, _ => false

def sameMembers : List (String × Json) → List (String × Json) → Bool
  | [], [] => true
  | (name, v) :: members, (name', v') :: members' =>
    name == name' && same v v' && sameMembers members members'
  | _, _ => false

end

mutual

theorem same_iff (v w : Json) : same v w = true ↔ v = w := by
  cases v <;> cases w <;> simp [same, sameItems_iff, sameMembers_iff]

theorem sameItems_iff (items items' : List Json) :
    sameItems items items' = true ↔ items = items' := by
  cases items <;> cases items' <;> simp [sameItems, same_iff, sameItems_iff]

theorem sameMembers_iff (members members' : List (String × Json)) :
    sameMembers members members' = true ↔ members = members' := by
  cases members <;> cases members' <;>
    simp [sameMembers, same_iff, sameMembers_iff, Prod.ext_iff]

end

instance : DecidableEq Json := fun v w => decidable_of_iff _ (same_iff v w)

def isNull : Json → Bool
  | null => true
  | _ => false

/-- The value of the first member with that name. -/
def get? : Json → String → Option Json
  | .object members, name => members.lookup name
  | _, _ => none

/-- A float as JSON; what is not finite has no number and becomes null. -/
def ofFloat (x : Float) : Json :=
  match Number.ofFloat? x with
  | some n => .number n
  | none => .null

def ofNat (n : Nat) : Json := .number (.ofNat n)

def ofStrings (ss : List String) : Json := .array (ss.map .string)

/-! ### Members without repetition -/

/-- Puts a member into its place: over the member of that name, or else at the end. -/
def setMember (name : String) (value : Json) : List (String × Json) → List (String × Json)
  | [] => [(name, value)]
  | (k, v) :: rest =>
    if name = k then (k, value) :: rest else (k, v) :: setMember name value rest

end Json

end FilterQuery
