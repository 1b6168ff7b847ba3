import FilterQuery.Request.Basic
import FilterQuery.Request.Record

/-!
# The canonical wire format

The members of each record of a request, in the order in which an array lists their values. A null
member says as much as an absent one, wherever its type has a default.
-/

namespace FilterQuery

open Decoder

def WireVersion.ofName (name : String) : Except Mismatch WireVersion :=
  match name with
  | "v2" => .ok .v2
  | "v3" => .ok .v3
  | name => .error (.unknownVersion name)

/-- The version as it stands in JSON: its name, or an object with its name and a null. -/
def WireVersion.decode : Decoder WireVersion
  | .string name => WireVersion.ofName name
  | .object [] => .error .notSingle
  | .object ((name, content) :: rest) => do
    let version ← WireVersion.ofName name
    match rest, content with
    | [], .null => .ok version
    | [], found => .error (.type found .unit)
    | _ :: _, _ => .error .notSingle
  | found => .error (.type found .textOrObject)

def RequestValue.decode : Decoder RequestValue := fun v => .ok (.ofJson v)

/-- A member that is a text, and empty by default. -/
def Decoder.textMember {σ : Type} (name : String) (put : String → σ → σ) : Member σ :=
  member name (orDefault "" text) put

/-- A member that is a list, and empty by default. -/
def Decoder.listMember {σ α : Type} (name : String) (item : Decoder α) (put : List α → σ → σ) :
    Member σ :=
  member name (orDefault [] (list item)) put

def Match.decode : Decoder Match := record "Match" [
  textMember "key" fun x m => { m with key := x },
  member "value" RequestValue.decode fun x m => { m with value := x }] {}

def Like.decode : Decoder Like := record "Like" [
  textMember "key" fun x l => { l with key := x },
  textMember "value" fun x l => { l with value := x }] {}

def ElemMatch.decode : Decoder ElemMatch := record "ElemMatch" [
  textMember "key" fun x e => { e with key := x },
  listMember "value" Match.decode fun x e => { e with value := x }] {}

def Bounds.decode : Decoder Bounds := record "RangeValue" [
  member "gt" (optional raw) fun x b => { b with gt := x },
  member "lt" (optional raw) fun x b => { b with lt := x },
  member "gte" (optional raw) fun x b => { b with gte := x },
  member "lte" (optional raw) fun x b => { b with lte := x }] {}

def Range.decode : Decoder Range := record "Range" [
  textMember "key" fun x r => { r with key := x },
  member "value" (optional Bounds.decode) fun x r => { r with value := x }] {}

def Membership.decode : Decoder Membership := record "SetFilter" [
  textMember "key" fun x m => { m with key := x },
  member "value" (optional (list RequestValue.decode)) fun x m => { m with value := x }] {}

def QueryPart.decode : Decoder QueryPart := record "Query" [
  listMember "match" Match.decode fun x q => { q with equalities := x },
  listMember "like" Like.decode fun x q => { q with substrings := x },
  listMember "elem_match" ElemMatch.decode fun x q => { q with elements := x }] {}

def FilterPart.decode : Decoder FilterPart := record "Filter" [
  listMember "range" Range.decode fun x f => { f with ranges := x },
  listMember "in" Membership.decode fun x f => { f with anyOf := x },
  listMember "nin" Membership.decode fun x f => { f with noneOf := x },
  listMember "all" Membership.decode fun x f => { f with allOf := x }] {}

def SortEntry.decode : Decoder SortEntry := record "Sort" [
  textMember "key" fun x s => { s with key := x },
  textMember "value" fun x s => { s with value := x }] {}

def Limit.decode : Decoder Limit := record "Limit" [
  member "rows" (orDefault 0 integer) fun x l => { l with rows := x },
  member "offset" (orDefault 0 integer) fun x l => { l with offset := x }] {}

def Request.decode : Decoder Request := record "Params" [
  member "query" (orDefault {} QueryPart.decode) fun x r => { r with query := x },
  member "filter" (orDefault {} FilterPart.decode) fun x r => { r with filter := x },
  listMember "sort" SortEntry.decode fun x r => { r with sort := x },
  member "limit" (orDefault {} Limit.decode) fun x r => { r with limit := x },
  member "data" (optional raw) fun x r => { r with data := x }] {}

end FilterQuery
