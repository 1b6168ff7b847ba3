import FilterQuery.Clause

/-!
# Compilation

A request is compiled entry by entry, in the order of the categories. Later entries overwrite earlier
ones under the same key. Compilation fails only where a clause is required and no entry counts.
-/

namespace FilterQuery

inductive Entry where
  | equality (m : Match)
  | substring (l : Like)
  | element (e : ElemMatch)
  | range (r : Range)
  | membership (q : Quantifier) (m : Membership)

def Draft.add [RegexLibrary] (draft : Draft) : Entry → Draft
  | .equality m => draft.addMatch m
  | .substring l => draft.addLike l
  | .element e => draft.addElemMatch e
  | .range r => draft.addRange r
  | .membership q m => draft.addMembership q m

namespace Request

def entriesOf (r : Request) : Category → List Entry
  | .equality => r.query.equalities.map .equality
  | .substring => r.query.substrings.map .substring
  | .element => r.query.elements.map .element
  | .range => r.filter.ranges.map .range
  | .anyOf => r.filter.anyOf.map (.membership .anyOf)
  | .noneOf => r.filter.noneOf.map (.membership .noneOf)
  | .allOf => r.filter.allOf.map (.membership .allOf)

/-- All entries in the order in which they are compiled. -/
def entries (r : Request) : List Entry := Category.order.flatMap r.entriesOf

def draft [RegexLibrary] (r : Request) : Draft := r.entries.foldl Draft.add .empty

end Request

/-- What a request is compiled to. -/
structure Compiled where
  clauses : QueryDocument
  /-- How many entries counted. -/
  parsed : Nat
  diagnostics : List Diagnostic

def Draft.compiled (draft : Draft) : Compiled := ⟨draft.clauses, draft.parsed, draft.diagnostics⟩

def Compiled.diagnosticsOf (c : Compiled) (category : Category) : List Diagnostic :=
  c.diagnostics.filter (·.category == category)

inductive CompileError where
  /-- A clause is required and no entry counts. -/
  | nothingParsed
deriving DecidableEq, Repr

def CompileError.message : CompileError → String
  | nothingParsed => "required at least one params query or filter"

/-- Compiles the request; with `required` at least one entry has to count. -/
def Request.compile [RegexLibrary] (r : Request) (required : Bool) : Except CompileError Compiled :=
  let compiled := r.draft.compiled
  if required && compiled.parsed == 0 then .error .nothingParsed else .ok compiled

end FilterQuery
