import FilterQuery.Draft
import Mathlib.Algebra.GroupWithZero.Nat

/-!
# Histories of a draft

A draft changes in four ways: an entry is counted, something is reported, the diagnostics of a nested
draft are taken over, a clause is written. A list of such actions is a history, and what a draft holds
after a history can be read off the list.

Only one thing that an action does depends on what came before it: a write reports the clause whose
place it takes. Once these reports are set aside, the draft holds the last write of every key, the sum
of the counts, and what the actions say one after the other, each as if it stood alone. This is the
invariant that makes the entries of a request independent of one another.
-/

namespace FilterQuery

/-- The clause took the place of an earlier one. -/
def Diagnostic.isOverwritten (d : Diagnostic) : Bool :=
  match d.reason with
  | .overwritten _ => true
  | _ => false

namespace Draft

/-- What a write says about the clause that is lost by it. -/
def lossReports (draft : Draft) (category : Category) (key : String) : List Diagnostic :=
  if draft.clauses.contains key then
    [⟨category, key, .overwritten ((draft.origins.get? key).getD category)⟩]
  else []

/-- The diagnostics of a nested draft under the names of a clause of the outer one. -/
def rehomed (category : Category) (key : String) (nested : Draft) : List Diagnostic :=
  nested.diagnostics.map fun d => ⟨category, nestedKey key d.key, d.reason⟩

theorem countP_rehomed (test : Reason → Bool) (category : Category) (key : String) (nested : Draft) :
    (nested.rehomed category key).countP (fun d => test d.reason) =
      nested.diagnostics.countP fun d => test d.reason := by
  rw [rehomed, List.countP_map]
  rfl

theorem reportAll_eq (draft : Draft) (category : Category) (key : String) (reasons : List Reason) :
    draft.reportAll category key reasons =
      { draft with
        diagnostics := draft.diagnostics ++ reasons.map fun reason => ⟨category, key, reason⟩
        reports := draft.reports ++ reasons.map fun reason => ⟨category, key, reason⟩ } := by
  induction reasons generalizing draft with
  | nil => simp [reportAll]
  | cons reason rest ih =>
      have hstep : draft.reportAll category key (reason :: rest) =
          (draft.report category key reason).reportAll category key rest := rfl
      rw [hstep, ih]
      simp [report]

/-- One change of a draft. -/
inductive Action where
  | count
  | report (category : Category) (key : String) (reason : Reason)
  | absorb (category : Category) (key : String) (nested : Draft)
  | write (category : Category) (key : String) (value : QueryValue)

namespace Action

def written? (key : String) : Action → Option QueryValue
  | .write _ k value => if key = k then some value else none
  | _ => none

def counted : Action → Nat
  | .count => 1
  | _ => 0

end Action

/-- The last value that a history writes under a key. -/
def lastWritten? (key : String) (actions : List Action) : Option QueryValue :=
  actions.reverse.findSome? (Action.written? key)

theorem lastWritten?_cons (key : String) (action : Action) (rest : List Action) :
    lastWritten? key (action :: rest) = (lastWritten? key rest).or (action.written? key) := by
  simp [lastWritten?]

theorem lastWritten?_append (key : String) (first second : List Action) :
    lastWritten? key (first ++ second) = (lastWritten? key second).or (lastWritten? key first) := by
  simp [lastWritten?]

theorem lastWritten?_flatMap {α : Type} (key : String) (history : α → List Action) (items : List α) :
    lastWritten? key (items.flatMap history) =
      items.reverse.findSome? fun item => lastWritten? key (history item) := by
  induction items with
  | nil => rfl
  | cons item rest ih =>
      rw [List.flatMap_cons, lastWritten?_append, ih, List.reverse_cons, List.findSome?_append]
      simp

variable [RegexLibrary]

def faultReports (category : Category) (key : String) (value : QueryValue) : List Diagnostic :=
  value.patternFaults.map fun message => ⟨category, key, .invalidPattern message⟩

/-- A write puts the value under its key and adds two groups of reports. -/
theorem write_eq (draft : Draft) (category : Category) (key : String) (value : QueryValue) :
    draft.write category key value =
      { draft with
        clauses := draft.clauses.insert key value
        origins := draft.origins.insert key category
        diagnostics := draft.diagnostics ++ faultReports category key value
          ++ draft.lossReports category key
        reports := draft.reports ++ faultReports category key value
          ++ draft.lossReports category key } := by
  unfold write
  rw [reportAll_eq]
  unfold lossReports faultReports
  by_cases hcontains : draft.clauses.contains key <;> simp [hcontains, report, List.map_map]

def perform (draft : Draft) : Action → Draft
  | .count => draft.count
  | .report category key reason => draft.report category key reason
  | .absorb category key nested => draft.absorb category key nested
  | .write category key value => draft.write category key value

def run (draft : Draft) (actions : List Action) : Draft := actions.foldl perform draft

@[simp] theorem run_nil (draft : Draft) : draft.run [] = draft := rfl

@[simp] theorem run_cons (draft : Draft) (action : Action) (rest : List Action) :
    draft.run (action :: rest) = (draft.perform action).run rest := rfl

theorem run_append (draft : Draft) (first second : List Action) :
    draft.run (first ++ second) = (draft.run first).run second :=
  List.foldl_append

/-- What the action says on any draft; the clause lost by a write is not among it. -/
def Action.diagnostics : Action → List Diagnostic
  | .count => []
  | .report category key reason => [⟨category, key, reason⟩]
  | .absorb category key nested => nested.rehomed category key
  | .write category key value => faultReports category key value

theorem get?_clauses_perform (draft : Draft) (action : Action) (key : String) :
    (draft.perform action).clauses.get? key =
      (action.written? key).or (draft.clauses.get? key) := by
  cases action with
  | count => rfl
  | report category k reason => rfl
  | absorb category k nested => rfl
  | write category k value =>
      rw [perform, write_eq]
      simp only [KeyMap.get?_insert, Action.written?]
      split <;> rfl

theorem parsed_perform (draft : Draft) (action : Action) :
    (draft.perform action).parsed = draft.parsed + action.counted := by
  cases action with
  | count => rfl
  | report category key reason => rfl
  | absorb category key nested => rfl
  | write category key value => rw [perform, write_eq]; rfl

/-- An action adds what it says anywhere and then, if it is a write, what it says of the lost clause. -/
theorem diagnostics_perform (draft : Draft) (action : Action) :
    ∃ lost : List Diagnostic, (∀ d ∈ lost, d.isOverwritten = true) ∧
      (draft.perform action).diagnostics = draft.diagnostics ++ action.diagnostics ++ lost := by
  cases action with
  | count => exact ⟨[], by simp, by simp [perform, count, Action.diagnostics]⟩
  | report category key reason =>
      exact ⟨[], by simp, by simp [perform, report, Action.diagnostics]⟩
  | absorb category key nested =>
      exact ⟨[], by simp, by simp [perform, absorb, Action.diagnostics, rehomed]⟩
  | write category key value =>
      refine ⟨draft.lossReports category key, ?_, ?_⟩
      · intro d hd
        unfold lossReports at hd
        split at hd
        · rw [List.mem_singleton.1 hd]
          rfl
        · exact absurd hd List.not_mem_nil
      · rw [perform, write_eq]
        rfl

/-- After a history a key holds what was last written there, or else what it held before. -/
theorem get?_clauses_run (draft : Draft) (actions : List Action) (key : String) :
    (draft.run actions).clauses.get? key =
      (lastWritten? key actions).or (draft.clauses.get? key) := by
  induction actions generalizing draft with
  | nil => rfl
  | cons action rest ih =>
      rw [run_cons, ih, get?_clauses_perform, lastWritten?_cons, Option.or_assoc]

theorem parsed_run (draft : Draft) (actions : List Action) :
    (draft.run actions).parsed = draft.parsed + (actions.map Action.counted).sum := by
  induction actions generalizing draft with
  | nil => rfl
  | cons action rest ih =>
      rw [run_cons, ih, parsed_perform, List.map_cons, List.sum_cons, Nat.add_assoc]

/-- What a history says to a test that no loss of a clause passes does not depend on the draft. -/
theorem filter_diagnostics_run (test : Diagnostic → Bool)
    (hlost : ∀ d : Diagnostic, d.isOverwritten = true → test d = false)
    (draft : Draft) (actions : List Action) :
    (draft.run actions).diagnostics.filter test =
      draft.diagnostics.filter test ++ (actions.flatMap Action.diagnostics).filter test := by
  induction actions generalizing draft with
  | nil => simp
  | cons action rest ih =>
      -- Only what is said of a lost clause depends on the draft, and the test passes none of it.
      obtain ⟨lost, hover, hdiagnostics⟩ := draft.diagnostics_perform action
      have hnone : lost.filter test = [] :=
        List.filter_eq_nil_iff.2 fun d hd => by simp [hlost d (hover d hd)]
      rw [run_cons, ih, hdiagnostics, List.flatMap_cons]
      simp [hnone]

theorem get?_clauses_run_empty (actions : List Action) (key : String) :
    (empty.run actions).clauses.get? key = lastWritten? key actions := by
  rw [get?_clauses_run, show empty.clauses.get? key = none from rfl, Option.or_none]

theorem parsed_run_empty (actions : List Action) :
    (empty.run actions).parsed = (actions.map Action.counted).sum := by
  rw [parsed_run, show empty.parsed = 0 from rfl, Nat.zero_add]

theorem filter_diagnostics_run_empty (test : Diagnostic → Bool)
    (hlost : ∀ d : Diagnostic, d.isOverwritten = true → test d = false) (actions : List Action) :
    (empty.run actions).diagnostics.filter test =
      (actions.flatMap Action.diagnostics).filter test := by
  rw [filter_diagnostics_run test hlost, show empty.diagnostics = [] from rfl, List.filter_nil,
    List.nil_append]

theorem countP_diagnostics_run_empty (test : Diagnostic → Bool)
    (hlost : ∀ d : Diagnostic, d.isOverwritten = true → test d = false) (actions : List Action) :
    (empty.run actions).diagnostics.countP test =
      (actions.flatMap Action.diagnostics).countP test := by
  rw [List.countP_eq_length_filter, filter_diagnostics_run_empty test hlost,
    List.countP_eq_length_filter]

end Draft

end FilterQuery
