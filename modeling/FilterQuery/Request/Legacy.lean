import FilterQuery.Request.Decoder

/-!
# The older wire format

Version 2 knew matches of texts and ranges between two bounds, and lists of clauses on attributes that
were never compiled. `Legacy.Request.lift` brings such a request into the canonical form; the lists on
attributes have to be well formed and are then dropped.
-/

namespace FilterQuery

open Decoder

namespace Legacy

structure Match where
  key : String := ""
  value : String := ""
deriving Inhabited

structure Bounds where
  gt : Option Json := none
  lt : Option Json := none
deriving Inhabited

structure Range where
  key : String := ""
  value : Option Bounds := none
deriving Inhabited

structure QueryPart where
  equalities : List Match := []
  attributeEqualities : List Match := []
deriving Inhabited

structure FilterPart where
  ranges : List Range := []
  attributeRanges : List Range := []
deriving Inhabited

structure Request where
  query : QueryPart := {}
  filter : FilterPart := {}
  sort : List SortEntry := []
  limit : Limit := {}
  attributeFilters : List FilterPart := []
deriving Inhabited

def Match.decode : Decoder Match := record "MatchV2" [
  textMember "key" fun x m => { m with key := x },
  textMember "value" fun x m => { m with value := x }] {}

def Bounds.decode : Decoder Bounds := record "RangeValueV2" [
  member "gt" (optional raw) fun x b => { b with gt := x },
  member "lt" (optional raw) fun x b => { b with lt := x }] {}

def Range.decode : Decoder Range := record "RangeV2" [
  textMember "key" fun x r => { r with key := x },
  member "value" (optional Bounds.decode) fun x r => { r with value := x }] {}

def QueryPart.decode : Decoder QueryPart := record "QueryV2" [
  listMember "match" Match.decode fun x q => { q with equalities := x },
  listMember "match_attributes" Match.decode fun x q => { q with attributeEqualities := x }] {}

def FilterPart.decode : Decoder FilterPart := record "FilterV2" [
  listMember "range" Range.decode fun x f => { f with ranges := x },
  listMember "range_attributes" Range.decode fun x f => { f with attributeRanges := x }] {}

def Request.decode : Decoder Request := record "ParamsV2" [
  member "query" (orDefault {} QueryPart.decode) fun x r => { r with query := x },
  member "filter" (orDefault {} FilterPart.decode) fun x r => { r with filter := x },
  listMember "sort" SortEntry.decode fun x r => { r with sort := x },
  member "limit" (orDefault {} Limit.decode) fun x r => { r with limit := x },
  listMember "filter_attributes" FilterPart.decode fun x r => { r with attributeFilters := x }] {}

/-! ### Into the canonical form -/

def Match.lift (m : Match) : FilterQuery.Match := ⟨m.key, .string m.value⟩

/-- The same bounds, without those that are there as a null. -/
def Bounds.lift (b : Bounds) : FilterQuery.Bounds where
  gt := b.gt.filter fun bound => !bound.isNull
  lt := b.lt.filter fun bound => !bound.isNull

def Range.lift (r : Range) : FilterQuery.Range := ⟨r.key, r.value.map Bounds.lift⟩

/-- How many clauses on attributes the request has. -/
def Request.attributeClauses (r : Request) : Nat :=
  r.attributeFilters.foldl (fun n f => n + f.ranges.length + f.attributeRanges.length)
    (r.query.attributeEqualities.length + r.filter.attributeRanges.length)

def Request.lift (r : Request) : FilterQuery.Request where
  query := { equalities := r.query.equalities.map Match.lift }
  filter := { ranges := r.filter.ranges.map Range.lift }
  sort := r.sort
  limit := r.limit
  version := .v2

end Legacy

end FilterQuery
