import FilterQuery.Json.Basic
import FilterQuery.Request.Basic

/-!
# Listings

How the documents found are listed: sorted by which fields, how many of them skipped, and how many at
most. A field counts where it is named first.
-/

namespace FilterQuery

inductive SortOrder where
  | ascending
  | descending
deriving DecidableEq, Repr

namespace SortOrder

/-- The order that a request means. Everything that does not ask for the descending order asks for the
ascending one. -/
def ofText (s : String) : SortOrder :=
  if Text.asciiLower (Text.trim s) ∈ ["desc", "descending", "-1"] then descending else ascending

def direction : SortOrder → Int64
  | ascending => 1
  | descending => -1

def name : SortOrder → String
  | ascending => "ascending"
  | descending => "descending"

end SortOrder

structure SortKey where
  field : String
  order : SortOrder
deriving DecidableEq, Repr

/-- The fields to sort by: of the entries whose key is not blank, the first of each key. -/
def sortKeys : List SortEntry → List SortKey
  | [] => []
  | e :: rest =>
    if Text.isBlank e.key then sortKeys rest
    else ⟨e.key, .ofText e.value⟩ :: (sortKeys rest).filter (·.field != e.key)

def positive? (n : Int64) : Option Nat := if 0 < n then some n.toInt.toNat else none

structure Listing where
  sort : List SortKey := []
  skip : Option Nat := none
  limit : Option Nat := none
deriving DecidableEq, Repr

namespace Listing

def ofRequest (r : Request) : Listing where
  sort := sortKeys r.sort
  skip := positive? r.limit.offset
  limit := positive? r.limit.rows

/-- Each field with its direction, in the order in which they sort. -/
def sortDocument (l : Listing) : List (String × Json) :=
  l.sort.foldl (fun members k => Json.setMember k.field (.number (.int k.order.direction)) members)
    []

/-- The members for what is skipped and how many are wanted, as far as there are any. -/
def window (l : Listing) : List (String × Json) :=
  ((l.skip.map fun n => ("skip", Json.ofNat n)).toList)
    ++ (l.limit.map fun n => ("limit", Json.ofNat n)).toList

def toJson (l : Listing) : Json :=
  .object (("sort", .array (l.sort.map fun k =>
    .object [("field", .string k.field), ("order", .string k.order.name)])) :: l.window)

end Listing

end FilterQuery
