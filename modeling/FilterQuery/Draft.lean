import FilterQuery.Coercion
import FilterQuery.Request.Basic

/-!
# Drafts

A draft is a query document in the making: the clauses written so far, the category that wrote each of
them, and what was reported on the way. Every write goes through `Draft.write`, which is where a
pattern that is no regular expression and a clause that takes another's place are reported.
-/

namespace FilterQuery

/-- A query document in the making. -/
structure Draft where
  clauses : QueryDocument := .empty
  /-- The category that wrote each clause. -/
  origins : KeyMap Category := .empty
  /-- How many entries counted. -/
  parsed : Nat := 0
  diagnostics : List Diagnostic := []
  /-- Every report in the order and under the names in which it was made, those of nested drafts
  included. -/
  reports : List Diagnostic := []
deriving Inhabited

namespace Draft

def empty : Draft := {}

/-- Counts an entry. -/
def count (draft : Draft) : Draft := { draft with parsed := draft.parsed + 1 }

def report (draft : Draft) (category : Category) (key : String) (reason : Reason) : Draft :=
  let d : Diagnostic := ⟨category, key, reason⟩
  { draft with diagnostics := draft.diagnostics ++ [d], reports := draft.reports ++ [d] }

def reportAll (draft : Draft) (category : Category) (key : String) (reasons : List Reason) : Draft :=
  reasons.foldl (fun draft reason => draft.report category key reason) draft

/-- Puts a value under a key, over whatever stood there. The value's faulty patterns are reported
first, and then the clause that is lost. -/
def write [RegexLibrary] (draft : Draft) (category : Category) (key : String) (value : QueryValue) : Draft :=
  let draft := draft.reportAll category key (value.patternFaults.map .invalidPattern)
  let written := { draft with
    clauses := draft.clauses.insert key value
    origins := draft.origins.insert key category }
  if draft.clauses.contains key then
    written.report category key (.overwritten ((draft.origins.get? key).getD category))
  else written

/-- A key below another; the empty key stands for the other itself. -/
def nestedKey (outer inner : String) : String := if inner = "" then outer else outer ++ "." ++ inner

/-- Takes over the diagnostics of a nested draft, for a clause of a category under a key. -/
def absorb (draft : Draft) (category : Category) (key : String) (nested : Draft) : Draft :=
  { draft with
    diagnostics := draft.diagnostics
      ++ nested.diagnostics.map fun d => ⟨category, nestedKey key d.key, d.reason⟩
    reports := draft.reports ++ nested.reports }

end Draft

end FilterQuery
