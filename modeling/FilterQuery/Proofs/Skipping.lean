import FilterQuery.Proofs.Accounting
import Mathlib.Data.List.Basic

/-!
# Skipped entries do nothing

A draft can be told without the skips in its log, and so can a history: the reports of skips go, and the
nested drafts lose theirs. Telling commutes with running, one action at a time, because no action looks
at what was reported before it. A skipped entry is then told as nothing at all, and an entry for list
elements as the entry without its skipped matches. Hence a request and the same request without all that
is skipped in it come to one draft, but for the skips that only the first one reports.
-/

namespace FilterQuery

open Draft

namespace Draft

/-- The draft as if no skip had been reported. -/
def withoutSkips (draft : Draft) : Draft :=
  { draft with
    diagnostics := draft.diagnostics.filter (!·.isSkip)
    reports := draft.reports.filter (!·.isSkip) }

def Action.withoutSkips : Action → List Action
  | .count => [.count]
  | .report category key reason => if reason.isSkip then [] else [.report category key reason]
  | .absorb category key nested => [.absorb category key nested.withoutSkips]
  | .write category key value => [.write category key value]

theorem Action.IsPlain.withoutSkips_eq {action : Action} (h : action.IsPlain) :
    action.withoutSkips = [action] := by
  cases action with
  | count => exact h.elim
  | absorb category key nested => exact h.elim
  | report category key reason =>
      have hreason : reason.isSkip = false := h
      simp [withoutSkips, hreason]
  | write category key value => rfl

theorem filter_isSkip_rehomed (category : Category) (key : String) (nested : Draft) :
    (nested.rehomed category key).filter (!·.isSkip) = nested.withoutSkips.rehomed category key := by
  rw [rehomed, rehomed, withoutSkips, List.filter_map]
  rfl

end Draft

def ElemMatch.withoutSkipped (e : ElemMatch) : ElemMatch :=
  { e with value := e.value.filter (!·.isSkipped) }

def Entry.withoutSkipped : Entry → Entry
  | .element e => .element e.withoutSkipped
  | e => e

theorem Entry.withoutSkipped_of_element?_eq_none {e : Entry} (h : e.element? = none) :
    e.withoutSkipped = e := by
  cases e with
  | element m => cases h
  | _ => rfl

namespace Request

/-- The request without its skipped entries and without the skipped matches of its entries for list
elements. -/
def withoutSkipped (r : Request) : Request :=
  { r with
    query :=
      { equalities := r.query.equalities.filter (!·.isSkipped)
        substrings := r.query.substrings.filter (!·.isSkipped)
        elements := (r.query.elements.filter (!·.isSkipped)).map ElemMatch.withoutSkipped }
    filter :=
      { ranges := r.filter.ranges.filter (!·.isSkipped)
        anyOf := r.filter.anyOf.filter (!·.isSkipped)
        noneOf := r.filter.noneOf.filter (!·.isSkipped)
        allOf := r.filter.allOf.filter (!·.isSkipped) } }

variable (r : Request)

theorem entries_withoutSkipped :
    r.withoutSkipped.entries = (r.entries.filter (!·.isSkipped)).map Entry.withoutSkipped := by
  simp only [entries_eq, withoutSkipped, List.filter_append, List.filter_map, List.map_append,
    List.map_map]
  rfl

end Request

variable [RegexLibrary]

namespace Draft

/-- The reports of a write are about faulty patterns and a lost clause. -/
theorem filter_isSkip_write (draft : Draft) (category : Category) (key : String)
    (value : QueryValue) :
    (faultReports category key value ++ draft.lossReports category key).filter (!·.isSkip) =
      faultReports category key value ++ draft.lossReports category key := by
  rw [List.filter_eq_self]
  intro d hd
  rcases List.mem_append.1 hd with hfault | hloss
  · obtain ⟨message, -, rfl⟩ := List.mem_map.1 hfault
    rfl
  · rw [lossReports] at hloss
    split at hloss
    · rw [List.mem_singleton.1 hloss]
      rfl
    · exact absurd hloss List.not_mem_nil

theorem withoutSkips_perform (draft : Draft) (action : Action) :
    (draft.perform action).withoutSkips = draft.withoutSkips.run action.withoutSkips := by
  cases action with
  | count => rfl
  | report category key reason =>
      cases hreason : reason.isSkip with
      | true => simp [perform, report, withoutSkips, Action.withoutSkips, Diagnostic.isSkip, hreason]
      | false => simp [perform, report, withoutSkips, Action.withoutSkips, Diagnostic.isSkip, hreason]
  | absorb category key nested =>
      have hnested := filter_isSkip_rehomed category key nested
      simp only [rehomed] at hnested
      simp [perform, absorb, withoutSkips, Action.withoutSkips, hnested]
  | write category key value =>
      have hkept := draft.filter_isSkip_write category key value
      have hsame : draft.withoutSkips.lossReports category key = draft.lossReports category key := rfl
      simp only [Action.withoutSkips, run_cons, run_nil, perform, write_eq, hsame]
      simp only [withoutSkips, List.append_assoc, List.filter_append] at hkept ⊢
      rw [hkept]

theorem withoutSkips_run (draft : Draft) (actions : List Action) :
    (draft.run actions).withoutSkips =
      draft.withoutSkips.run (actions.flatMap Action.withoutSkips) := by
  induction actions generalizing draft with
  | nil => rfl
  | cons action rest ih =>
      rw [run_cons, ih, withoutSkips_perform, List.flatMap_cons, run_append]

theorem withoutSkips_run_empty (actions : List Action) :
    (empty.run actions).withoutSkips = empty.run (actions.flatMap Action.withoutSkips) :=
  withoutSkips_run empty actions

end Draft

namespace Entry

theorem withoutSkips_history_of_isSkipped {e : Entry} (h : e.isSkipped = true) :
    e.history.flatMap Action.withoutSkips = [] := by
  obtain ⟨reason, hreason, hhistory⟩ := history_of_isSkipped h
  simp [hhistory, Action.withoutSkips, hreason]

/-- An entry without matches of its own is told as it is, unless it is skipped. -/
theorem withoutSkips_history_of_element?_eq_none {e : Entry} (helement : e.element? = none) :
    e.history.flatMap Action.withoutSkips = if e.isSkipped then [] else e.history := by
  cases hskipped : e.isSkipped with
  | true => exact withoutSkips_history_of_isSkipped hskipped
  | false =>
      obtain ⟨later, hhistory, hplain⟩ := history_of_counts hskipped helement
      have hlater : later.flatMap Action.withoutSkips = later := by
        calc later.flatMap Action.withoutSkips
            = later.flatMap fun action => [action] :=
              List.flatMap_congr fun action haction => (hplain action haction).withoutSkips_eq
          _ = later := List.flatMap_singleton' later
      rw [hhistory, List.flatMap_cons, hlater]
      rfl

/-- If each entry is told as nothing or as the entry without its skipped matches, then so are they all. -/
theorem withoutSkips_flatMap_history {entries : List Entry}
    (h : ∀ e ∈ entries, e.history.flatMap Action.withoutSkips =
      if e.isSkipped then [] else e.withoutSkipped.history) :
    (entries.flatMap Entry.history).flatMap Action.withoutSkips =
      ((entries.filter (!·.isSkipped)).map Entry.withoutSkipped).flatMap Entry.history := by
  induction entries with
  | nil => rfl
  | cons e rest ih =>
      rw [List.forall_mem_cons] at h
      rw [List.flatMap_cons, List.flatMap_append, ih h.2, h.1]
      cases hskipped : e.isSkipped with
      | true => simp [hskipped]
      | false => simp [hskipped]

end Entry

/-- The nested draft of the matches that are not skipped. -/
theorem ElemMatch.nested_withoutSkipped (e : ElemMatch) :
    e.withoutSkipped.nested = e.nested.withoutSkips := by
  have hmatches : e.withoutSkipped.value.map Entry.equality =
      ((e.value.map Entry.equality).filter (!·.isSkipped)).map Entry.withoutSkipped := by
    rw [List.filter_map, List.map_map]
    rfl
  rw [nested_eq_run, nested_eq_run, withoutSkips_run_empty, hmatches,
    Entry.withoutSkips_flatMap_history]
  intro f hf
  obtain ⟨m, -, rfl⟩ := List.mem_map.1 hf
  exact Entry.withoutSkips_history_of_element?_eq_none rfl

theorem ElemMatch.document_withoutSkipped (e : ElemMatch) :
    e.withoutSkipped.document = e.document := by
  rw [document, document, e.nested_withoutSkipped]
  rfl

theorem Entry.withoutSkips_history (e : Entry) :
    e.history.flatMap Action.withoutSkips =
      if e.isSkipped then [] else e.withoutSkipped.history := by
  obtain ⟨hskipped, -⟩ | ⟨-, helement, -⟩ | ⟨m, rfl, hskipped, hhistory⟩ := e.history_cases
  · rw [hskipped]
    exact withoutSkips_history_of_isSkipped hskipped
  · rw [withoutSkipped_of_element?_eq_none helement]
    exact withoutSkips_history_of_element?_eq_none helement
  · have hkept : (Entry.element m).withoutSkipped.history =
        [.count, .absorb .element m.key m.nested.withoutSkips, .write .element m.key m.document] := by
      rw [← m.nested_withoutSkipped, ← m.document_withoutSkipped]
      exact ElemMatch.history_eq (e := m.withoutSkipped) hskipped
    rw [hhistory, hkept, show (Entry.element m).isSkipped = false from hskipped]
    rfl

theorem Request.draft_withoutSkipped (r : Request) :
    r.withoutSkipped.draft = r.draft.withoutSkips := by
  rw [draft_eq_run, draft_eq_run, entries_withoutSkipped, withoutSkips_run_empty,
    Entry.withoutSkips_flatMap_history fun e _ => e.withoutSkips_history]

/-- **Skipped entries do nothing.** Without its skipped entries and matches a request is compiled to
the same clauses with the same count, and to the same diagnostics in the same order but for the skips. -/
theorem compile_withoutSkipped (r : Request) :
    ∃ c kept, r.compile false = .ok c ∧ r.withoutSkipped.compile false = .ok kept ∧
      kept.clauses = c.clauses ∧ kept.parsed = c.parsed ∧
      kept.diagnostics = c.diagnostics.filter (!·.isSkip) := by
  refine ⟨r.draft.compiled, r.draft.withoutSkips.compiled, r.compile_false, ?_, rfl, rfl, rfl⟩
  rw [r.withoutSkipped.compile_false, r.draft_withoutSkipped]

end FilterQuery
