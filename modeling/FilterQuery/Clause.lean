import FilterQuery.Draft

/-!
# Clauses

How each kind of entry becomes a clause. An entry with a blank key, or without anything to look for,
is skipped. All others count, whatever comes of their value.
-/

namespace FilterQuery

/-! ### Matches -/

def Match.path (m : Match) : String :=
  match m.value with
  | .pair key _ => pathUnder m.key key
  | _ => m.key

/-- What is written for a match, and the issues with it. A pair names either an operator, which stays
with its operand, or a field below, which becomes part of the path. -/
def Match.clause (m : Match) : Option QueryValue × List Issue :=
  match m.value with
  | .pair key value =>
    let (inner, issues) := value.coerce (.under key) m.path []
    (if isOperator key then inner.map (.operator key) else inner, issues)
  | value => value.coerce .field m.path []

namespace Draft

variable [RegexLibrary]

def addMatch (draft : Draft) (m : Match) : Draft :=
  if Text.isBlank m.key then draft.report .equality m.key .blankKey
  else
    let (value, issues) := m.clause
    let draft := issues.foldl (fun draft i => draft.report .equality i.path i.reason) draft.count
    match value with
    | some v => draft.write .equality m.path v
    | none => draft.report .equality m.path m.value.fault

def addMatches (draft : Draft) (ms : List Match) : Draft := ms.foldl addMatch draft

def addLike (draft : Draft) (l : Like) : Draft :=
  if Text.isBlank l.key then draft.report .substring l.key .blankKey
  else if Text.isBlank l.value then draft.report .substring l.key .blankPattern
  else draft.count.write .substring l.key (.regex (.containing l.value))

/-- Adds matches for the elements of a list. They are compiled on their own, into a document under the
operator. -/
def addElemMatch (draft : Draft) (e : ElemMatch) : Draft :=
  if Text.isBlank e.key then draft.report .element e.key .blankKey
  else
    let nested := empty.addMatches e.value
    (draft.count.absorb .element e.key nested).write .element e.key
      (.operator "$elemMatch" (.ofDocument nested.clauses))

end Draft

/-! ### Ranges -/

def Bounds.operators (b : Bounds) : List (String × Option Json) :=
  [("$gt", b.gt), ("$lt", b.lt), ("$gte", b.gte), ("$lte", b.lte)]

/-- The document of the bounds; a null is no bound. -/
def Bounds.document (b : Bounds) : QueryDocument :=
  .ofList (b.operators.filterMap fun (op, bound) =>
    (bound.filter fun v => !v.isNull).map fun v => (op, QueryValue.ofJson v))

def Draft.addRange [RegexLibrary] (draft : Draft) (r : Range) : Draft :=
  if Text.isBlank r.key then draft.report .range r.key .blankKey
  else
    match r.value with
    | none => draft.report .range r.key .missingValue
    | some bounds =>
      let doc := bounds.document
      let draft := if doc.isEmpty then draft.count.report .range r.key .emptyRange else draft.count
      draft.write .range r.key (.ofDocument doc)

/-! ### Lists of values -/

/-- How a value may stand to a list of values. -/
inductive Quantifier where
  | anyOf
  | noneOf
  | allOf
deriving DecidableEq, Repr

namespace Quantifier

def operator : Quantifier → String
  | anyOf => "$in"
  | noneOf => "$nin"
  | allOf => "$all"

def category : Quantifier → Category
  | anyOf => .anyOf
  | noneOf => .noneOf
  | allOf => .allOf

end Quantifier

/-- A value as an element of a list; pairs and lists are none. -/
def RequestValue.element? : RequestValue → Option QueryValue
  | .string s => some (.regex (.exact s))
  | .int n => some (.int n)
  | .float x => some (.float x)
  | .bool b => some (.bool b)
  | _ => none

/-- The positions, from `index` on, of the values that are no elements. -/
def droppedPositions (index : Nat) : List RequestValue → List Nat
  | [] => []
  | v :: rest =>
    if v.element?.isNone then index :: droppedPositions (index + 1) rest
    else droppedPositions (index + 1) rest

def Draft.addMembership [RegexLibrary] (draft : Draft) (q : Quantifier) (m : Membership) : Draft :=
  if Text.isBlank m.key then draft.report q.category m.key .blankKey
  else
    match m.value with
    | none => draft.report q.category m.key .missingValue
    | some values =>
      let dropped := (droppedPositions 0 values).map Reason.droppedElement
      (draft.count.reportAll q.category m.key dropped).write q.category m.key
        (.operator q.operator (.array (values.filterMap RequestValue.element?)))

end FilterQuery
