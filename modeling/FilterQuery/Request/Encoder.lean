import FilterQuery.Request.Basic

/-!
# Requests to JSON

The canonical wire format, written. Bounds and data that are absent are left out; the version is no
part of the format.
-/

namespace FilterQuery

def Match.toJson (m : Match) : Json :=
  .object [("key", .string m.key), ("value", m.value.toJson)]

def Like.toJson (l : Like) : Json :=
  .object [("key", .string l.key), ("value", .string l.value)]

def ElemMatch.toJson (e : ElemMatch) : Json :=
  .object [("key", .string e.key), ("value", .array (e.value.map Match.toJson))]

/-- A member that is left out when it has no value. -/
def optionalMember (name : String) (value : Option Json) : List (String × Json) :=
  (value.map fun v => (name, v)).toList

def Bounds.toJson (b : Bounds) : Json :=
  .object (optionalMember "gt" b.gt ++ optionalMember "lt" b.lt ++ optionalMember "gte" b.gte
    ++ optionalMember "lte" b.lte)

def Range.toJson (r : Range) : Json :=
  .object [("key", .string r.key), ("value", (r.value.map Bounds.toJson).getD .null)]

def Membership.toJson (m : Membership) : Json :=
  .object [("key", .string m.key),
    ("value", (m.value.map fun vs => Json.array (vs.map RequestValue.toJson)).getD .null)]

def QueryPart.toJson (q : QueryPart) : Json :=
  .object [("match", .array (q.equalities.map Match.toJson)),
    ("like", .array (q.substrings.map Like.toJson)),
    ("elem_match", .array (q.elements.map ElemMatch.toJson))]

def FilterPart.toJson (f : FilterPart) : Json :=
  .object [("range", .array (f.ranges.map Range.toJson)),
    ("in", .array (f.anyOf.map Membership.toJson)),
    ("nin", .array (f.noneOf.map Membership.toJson)),
    ("all", .array (f.allOf.map Membership.toJson))]

def SortEntry.toJson (s : SortEntry) : Json :=
  .object [("key", .string s.key), ("value", .string s.value)]

def Limit.toJson (l : Limit) : Json :=
  .object [("rows", .number (.int l.rows)), ("offset", .number (.int l.offset))]

def Request.toJson (r : Request) : Json :=
  .object ([("query", r.query.toJson), ("filter", r.filter.toJson),
    ("sort", .array (r.sort.map SortEntry.toJson)), ("limit", r.limit.toJson)]
    ++ optionalMember "data" r.data)

end FilterQuery
