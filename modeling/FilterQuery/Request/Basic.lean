import FilterQuery.Request.Value
import FilterQuery.Text.Blank

/-!
# Requests

The canonical form of a request: three lists of clauses to look for, four lists of clauses to narrow
the result by, and how the result is to be listed.
-/

namespace FilterQuery

inductive WireVersion where
  | v2
  | v3
deriving DecidableEq, Repr

namespace WireVersion

def name : WireVersion → String
  | v2 => "v2"
  | v3 => "v3"

/-- The version that a user means. Blanks around it, case and the letter do not matter. -/
def ofText? (s : String) : Option WireVersion :=
  match Text.asciiLower (Text.trim s) with
  | "v2" | "2" => some .v2
  | "v3" | "3" => some .v3
  | _ => none

def unknownMessage (s : String) : String :=
  "unknown API version '" ++ Text.asciiLower (Text.trim s) ++ "' (expected v2 or v3)"

end WireVersion

/-- Asks for a value under a key. -/
structure Match where
  key : String := ""
  value : RequestValue := .null
deriving Inhabited

structure Like where
  key : String := ""
  value : String := ""
deriving Inhabited, DecidableEq

/-- Asks for a list one of whose elements satisfies every match. -/
structure ElemMatch where
  key : String := ""
  value : List Match := []
deriving Inhabited

/-- The bounds of a range. A bound that is there as a null says nothing. -/
structure Bounds where
  gt : Option Json := none
  lt : Option Json := none
  gte : Option Json := none
  lte : Option Json := none
deriving Inhabited

/-- Whether no bound is there, not even as a null. -/
def Bounds.isEmpty (b : Bounds) : Bool :=
  b.gt.isNone && b.lt.isNone && b.gte.isNone && b.lte.isNone

/-- Asks for a value within bounds. -/
structure Range where
  key : String := ""
  value : Option Bounds := none
deriving Inhabited

/-- Asks how a value stands to a list of values: among them, not among them, or with all of them. -/
structure Membership where
  key : String := ""
  value : Option (List RequestValue) := none
deriving Inhabited

structure QueryPart where
  equalities : List Match := []
  substrings : List Like := []
  elements : List ElemMatch := []
deriving Inhabited

structure FilterPart where
  ranges : List Range := []
  anyOf : List Membership := []
  noneOf : List Membership := []
  allOf : List Membership := []
deriving Inhabited

structure SortEntry where
  key : String := ""
  value : String := ""
deriving Inhabited, DecidableEq

/-- How many documents are wanted, and how many of them skipped first. -/
structure Limit where
  rows : Int64 := 0
  offset : Int64 := 0
deriving Inhabited, DecidableEq

/-- A request in canonical form. -/
structure Request where
  query : QueryPart := {}
  filter : FilterPart := {}
  sort : List SortEntry := []
  limit : Limit := {}
  /-- Carried along and never looked at. -/
  data : Option Json := none
  /-- The version in which the request came. -/
  version : WireVersion := .v3
deriving Inhabited

/-- Whether no clause is declared. -/
def Request.isEmpty (r : Request) : Bool :=
  r.query.equalities.isEmpty && r.query.substrings.isEmpty && r.query.elements.isEmpty
    && r.filter.ranges.isEmpty && r.filter.anyOf.isEmpty && r.filter.noneOf.isEmpty
    && r.filter.allOf.isEmpty

end FilterQuery
