import FilterQuery.Config.Datum
import FilterQuery.Decimal.Layout
import FilterQuery.Text.Quoted
import FilterQuery.Unicode.Casing

/-!
# Settings as a tree

Configuration data with the places they come from. A table takes up another one entry by entry, so that
a source of settings only replaces what it says something about; the names of entries are in lower case.
-/

namespace FilterQuery.Config

/-- A value, a list or a table, and where it comes from. A table that was built up entry by entry comes
from nowhere in particular. -/
inductive Setting where
  | scalar (origin : Option String) (value : Scalar)
  | list (origin : Option String) (items : List Setting)
  | table (origin : Option String) (entries : List (String × Setting))

namespace Setting

instance : Inhabited Setting := ⟨.scalar none .unit⟩

def unit : Setting := .scalar none .unit

def empty : Setting := .table none []

mutual

def ofDatum (origin : String) : Datum → Setting
  | .scalar v => .scalar origin v
  | .list items => .list origin (ofItems origin items)
  | .table entries => .table origin (ofEntries origin entries)

def ofItems (origin : String) : List Datum → List Setting
  | [] => []
  | d :: rest => ofDatum origin d :: ofItems origin rest

def ofEntries (origin : String) : List (String × Datum) → List (String × Setting)
  | [] => []
  | (k, d) :: rest => (k, ofDatum origin d) :: ofEntries origin rest

end

def origin : Setting → Option String
  | .scalar o _ => o
  | .list o _ => o
  | .table o _ => o

/-! ### Building up -/

def entries : Setting → List (String × Setting)
  | .table _ es => es
  | _ => []

def items : Setting → List Setting
  | .list _ xs => xs
  | _ => []

def get? (s : Setting) (name : String) : Option Setting := s.entries.lookup name

/-- The setting with an entry set; what is no table becomes one. -/
def set (s : Setting) (name : String) (value : Setting) : Setting :=
  match s with
  | .table o es => .table o (Datum.setEntry name value es)
  | _ => .table none [(name, value)]

mutual

/-- The setting with a value put under a name: a table goes into what is there entry by entry, anything
else replaces it. -/
def put (s : Setting) (name : String) (value : Setting) : Setting :=
  let name := Unicode.lower name
  match value with
  | .table _ es => s.set name (putAll ((s.get? name).getD empty) es)
  | value => s.set name value

def putAll (s : Setting) (es : List (String × Setting)) : Setting :=
  match es with
  | [] => s
  | (k, v) :: rest => putAll (put s k v) rest

end

/-- The setting with an entry changed, which is made if it is not there. -/
def modifyEntry (s : Setting) (name : String) (f : Setting → Setting) : Setting :=
  s.set name (f ((s.get? name).getD unit))

/-- Where in a list of some length an item stands; negative numbers count from the end. -/
def position (length : Nat) (i : Int) : Nat := (if i < 0 then length + i else i).toNat

/-- The setting with an item changed; what is no list becomes one, and a short one is filled up. -/
def modifyItem (s : Setting) (i : Int) (f : Setting → Setting) : Setting :=
  let origin := match s with
    | .list o _ => o
    | _ => none
  let at' := position s.items.length i
  let filled := s.items ++ List.replicate (at' + 1 - s.items.length) unit
  .list origin (filled.modify at' f)

/-! ### Reading -/

/-- Numbers as texts are always written positionally. -/
def layout : Decimal.Layout := ⟨-400, 400, false⟩

def mention : Setting → String
  | .scalar _ .unit => "unit value"
  | .scalar _ (.bool b) => "boolean `" ++ (if b then "true" else "false") ++ "`"
  | .scalar _ (.int n) => "integer `" ++ toString n ++ "`"
  | .scalar _ (.float x) =>
    "floating point `" ++ (⟨-400, 400, true⟩ : Decimal.Layout).write x ++ "`"
  | .scalar _ (.text s) => "string " ++ Text.quoted s
  | .list _ _ => "sequence"
  | .table _ _ => "map"

/-- The texts that mean yes and no, in lower case. -/
def switchOfText? (s : String) : Option Bool :=
  if s ∈ ["1", "true", "on", "yes"] then some true
  else if s ∈ ["0", "false", "off", "no"] then some false
  else none

def switch? : Setting → Option Bool
  | .scalar _ (.bool b) => some b
  | .scalar _ (.int n) => some (n != 0)
  | .scalar _ (.float x) => some (x != 0)
  | .scalar _ (.text s) => switchOfText? (Unicode.lower s)
  | _ => none

def text? : Setting → Option String
  | .scalar _ (.text s) => some s
  | .scalar _ (.bool b) => some (if b then "true" else "false")
  | .scalar _ (.int n) => some (toString n)
  | .scalar _ (.float x) => some (layout.write x)
  | _ => none

/-- The value as it was compared with the texts for yes and no. -/
def compared : Setting → Setting
  | .scalar o (.text s) => .scalar o (.text (Unicode.lower s))
  | s => s

end Setting

end FilterQuery.Config
