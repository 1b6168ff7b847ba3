import FilterQuery.Proofs.History

/-!
# Who wrote what

A draft keeps the clauses and, in a second map, the category that wrote each of them. A write changes
both maps, and the report of a lost clause is made in between: it names the category that stands in the
second map before the write. So the report is right only if the second map always holds the last writer
of exactly the keys of the first, which is the invariant proved here by induction on the history.

From the invariant follows what a write says, and how often a loss is reported. A write either adds a
key or reports a loss, hence the writes of a history are as many as the clauses and the losses together.
-/

namespace FilterQuery

namespace Draft

namespace Action

def isWrite : Action → Bool
  | .write _ _ _ => true
  | _ => false

/-- The category and the value, if the action writes the key. -/
def write? (key : String) : Action → Option (Category × QueryValue)
  | .write category k value => if key = k then some (category, value) else none
  | _ => none

theorem written?_eq_map (key : String) (action : Action) :
    action.written? key = (action.write? key).map Prod.snd := by
  cases action with
  | write category k value =>
      by_cases hk : key = k
      · simp [written?, write?, hk]
      · simp [written?, write?, hk]
  | _ => rfl

theorem write?_eq_none_iff {key : String} {action : Action} :
    action.write? key = none ↔ ∀ category value, action ≠ .write category key value := by
  cases action with
  | write category k value =>
      by_cases hk : key = k
      · simp [write?, hk]
      · simp [write?, hk, Ne.symm hk]
  | _ => simp [write?]

end Action

/-- The last write to a key in a history. -/
def lastWrite? (key : String) (actions : List Action) : Option (Category × QueryValue) :=
  actions.reverse.findSome? (Action.write? key)

theorem lastWrite?_cons (key : String) (action : Action) (rest : List Action) :
    lastWrite? key (action :: rest) = (lastWrite? key rest).or (action.write? key) := by
  simp [lastWrite?]

theorem lastWritten?_eq_map (key : String) (actions : List Action) :
    lastWritten? key actions = (lastWrite? key actions).map Prod.snd := by
  induction actions with
  | nil => rfl
  | cons action rest ih =>
      rw [lastWritten?_cons, lastWrite?_cons, ih, Action.written?_eq_map]
      cases lastWrite? key rest with
      | none => rfl
      | some w => rfl

theorem lastWrite?_eq_none_iff {key : String} {actions : List Action} :
    lastWrite? key actions = none ↔
      ∀ category value, Action.write category key value ∉ actions := by
  have hnone : lastWrite? key actions = none ↔ ∀ action ∈ actions, action.write? key = none := by
    simp [lastWrite?]
  rw [hnone]
  constructor
  · intro h category value hmem
    exact Action.write?_eq_none_iff.1 (h _ hmem) category value rfl
  · intro h action hmem
    refine Action.write?_eq_none_iff.2 fun category value heq => ?_
    exact h category value (heq ▸ hmem)

variable [RegexLibrary]

theorem get?_origins_perform (draft : Draft) (action : Action) (key : String) :
    (draft.perform action).origins.get? key =
      ((action.write? key).map Prod.fst).or (draft.origins.get? key) := by
  cases action with
  | count => rfl
  | report category k reason => rfl
  | absorb category k nested => rfl
  | write category k value =>
      rw [perform, write_eq]
      simp only [KeyMap.get?_insert, Action.write?]
      split <;> rfl

theorem perform_of_not_isWrite (draft : Draft) {action : Action} (h : action.isWrite = false) :
    (draft.perform action).clauses = draft.clauses ∧
      (draft.perform action).origins = draft.origins ∧
      (draft.perform action).diagnostics = draft.diagnostics ++ action.diagnostics := by
  cases action with
  | count => exact ⟨rfl, rfl, (List.append_nil _).symm⟩
  | report category key reason => exact ⟨rfl, rfl, rfl⟩
  | absorb category key nested => exact ⟨rfl, rfl, rfl⟩
  | write category key value => cases h

theorem countP_isOverwritten_faultReports (category : Category) (key : String) (value : QueryValue) :
    (faultReports category key value).countP Diagnostic.isOverwritten = 0 := by
  rw [List.countP_eq_zero]
  intro d hd
  obtain ⟨message, -, rfl⟩ := List.mem_map.1 hd
  exact Bool.false_ne_true

/-- A write adds a key or reports a loss, and never both. -/
theorem size_clauses_perform_write (draft : Draft) (category : Category) (key : String)
    (value : QueryValue) :
    (draft.perform (.write category key value)).clauses.size +
        (draft.perform (.write category key value)).diagnostics.countP Diagnostic.isOverwritten =
      draft.clauses.size + draft.diagnostics.countP Diagnostic.isOverwritten + 1 := by
  have hfaults := countP_isOverwritten_faultReports category key value
  rw [perform, write_eq]
  simp only [KeyMap.size_insert, List.countP_append, hfaults, lossReports]
  cases hcontains : draft.clauses.contains key with
  | true =>
      have hone : ∀ previous, ([⟨category, key, .overwritten previous⟩] : List Diagnostic).countP
          Diagnostic.isOverwritten = 1 := fun _ => rfl
      simp only [↓reduceIte, hone]
      omega
  | false =>
      simp only [Bool.false_eq_true, ↓reduceIte, List.countP_nil]
      omega

theorem diagnostics_isPrefix_perform (draft : Draft) (action : Action) :
    draft.diagnostics <+: (draft.perform action).diagnostics := by
  obtain ⟨lost, -, hdiagnostics⟩ := draft.diagnostics_perform action
  rw [hdiagnostics, List.append_assoc]
  exact List.prefix_append _ _

theorem get?_origins_run (draft : Draft) (actions : List Action) (key : String) :
    (draft.run actions).origins.get? key =
      ((lastWrite? key actions).map Prod.fst).or (draft.origins.get? key) := by
  induction actions generalizing draft with
  | nil => rfl
  | cons action rest ih =>
      rw [run_cons, ih, get?_origins_perform, lastWrite?_cons, ← Option.or_assoc]
      congr 1
      cases lastWrite? key rest with
      | none => rfl
      | some w => rfl

theorem get?_origins_run_empty (actions : List Action) (key : String) :
    (empty.run actions).origins.get? key = (lastWrite? key actions).map Prod.fst := by
  rw [get?_origins_run, show empty.origins.get? key = none from rfl, Option.or_none]

theorem get?_clauses_run_empty_eq_map (actions : List Action) (key : String) :
    (empty.run actions).clauses.get? key = (lastWrite? key actions).map Prod.snd := by
  rw [get?_clauses_run_empty, lastWritten?_eq_map]

/-- Every clause has an origin, and every origin a clause. -/
theorem contains_origins_run (actions : List Action) (key : String) :
    (empty.run actions).origins.contains key = (empty.run actions).clauses.contains key := by
  rw [KeyMap.contains, KeyMap.contains, get?_origins_run_empty, get?_clauses_run_empty_eq_map,
    Option.isSome_map, Option.isSome_map]

theorem diagnostics_isPrefix_run (draft : Draft) (actions : List Action) :
    draft.diagnostics <+: (draft.run actions).diagnostics := by
  induction actions generalizing draft with
  | nil => exact List.prefix_rfl
  | cons action rest ih => exact (draft.diagnostics_isPrefix_perform action).trans (ih _)

/-- The loss that a write reports after a history is that of the last write to its key. -/
theorem lossReports_run (actions : List Action) (category : Category) (key : String) :
    (empty.run actions).lossReports category key =
      ((lastWrite? key actions).map fun w => ⟨category, key, .overwritten w.1⟩).toList := by
  rw [lossReports, KeyMap.contains, get?_clauses_run_empty_eq_map, get?_origins_run_empty]
  cases lastWrite? key actions with
  | none => rfl
  | some w => rfl

/-- The losses in the log are those that were handed in and those that writes reported. -/
theorem size_clauses_run (draft : Draft) (actions : List Action) :
    (draft.run actions).clauses.size +
        (draft.run actions).diagnostics.countP Diagnostic.isOverwritten =
      draft.clauses.size + draft.diagnostics.countP Diagnostic.isOverwritten +
        (actions.countP Action.isWrite +
          ((actions.filter (!·.isWrite)).flatMap Action.diagnostics).countP
            Diagnostic.isOverwritten) := by
  induction actions generalizing draft with
  | nil => rfl
  | cons action rest ih =>
      rw [run_cons, ih]
      cases hwrite : action.isWrite with
      | true =>
          cases action with
          | write category key value =>
              rw [size_clauses_perform_write, List.countP_cons_of_pos hwrite,
                List.filter_cons_of_neg (by simp [hwrite])]
              omega
          | _ => cases hwrite
      | false =>
          obtain ⟨hclauses, -, hdiagnostics⟩ := draft.perform_of_not_isWrite hwrite
          rw [hclauses, hdiagnostics, List.countP_cons_of_neg (by simp [hwrite]),
            List.filter_cons_of_pos (by simp [hwrite]), List.flatMap_cons, List.countP_append,
            List.countP_append]
          omega

/-- **What a draft remembers of its history.** After any history a key has the value and the category
of its last write, and none if it was never written. A further write reports the faults of its value
and then, if its key was written before, one loss with the category of the last write to it. Reports
and nested drafts leave both maps alone, and nothing takes a report back. So the writes are as many as
the clauses and those losses in the log that were not handed in by another action. -/
theorem run_remembers_last_writes (actions : List Action) :
    (∀ key, (empty.run actions).clauses.get? key = (lastWrite? key actions).map Prod.snd) ∧
      (∀ key, (empty.run actions).clauses.contains key = false ↔
        ∀ category value, Action.write category key value ∉ actions) ∧
      (∀ key, (empty.run actions).origins.get? key = (lastWrite? key actions).map Prod.fst) ∧
      (∀ key, (empty.run actions).origins.contains key =
        (empty.run actions).clauses.contains key) ∧
      (∀ category key value,
        ((empty.run actions).write category key value).diagnostics =
          (empty.run actions).diagnostics ++ faultReports category key value ++
            ((lastWrite? key actions).map fun w => ⟨category, key, .overwritten w.1⟩).toList) ∧
      actions.countP Action.isWrite +
          ((actions.filter (!·.isWrite)).flatMap Action.diagnostics).countP
            Diagnostic.isOverwritten =
        (empty.run actions).clauses.size +
          (empty.run actions).diagnostics.countP Diagnostic.isOverwritten ∧
      (∀ category key reason,
        ((empty.run actions).report category key reason).clauses = (empty.run actions).clauses ∧
          ((empty.run actions).report category key reason).origins = (empty.run actions).origins ∧
          ((empty.run actions).report category key reason).diagnostics =
            (empty.run actions).diagnostics ++ [⟨category, key, reason⟩]) ∧
      (∀ category key nested,
        ((empty.run actions).absorb category key nested).clauses = (empty.run actions).clauses ∧
          ((empty.run actions).absorb category key nested).origins = (empty.run actions).origins ∧
          ((empty.run actions).absorb category key nested).diagnostics =
            (empty.run actions).diagnostics ++ nested.rehomed category key) ∧
      ∀ more, (empty.run actions).diagnostics <+: (empty.run (actions ++ more)).diagnostics := by
  refine ⟨get?_clauses_run_empty_eq_map actions, ?_, get?_origins_run_empty actions,
    contains_origins_run actions, ?_, ?_, fun _ _ _ => ⟨rfl, rfl, rfl⟩,
    fun _ _ _ => ⟨rfl, rfl, rfl⟩, ?_⟩
  · intro key
    rw [KeyMap.contains, get?_clauses_run_empty_eq_map, Option.isSome_map,
      Option.isSome_eq_false_iff, Option.isNone_iff_eq_none, lastWrite?_eq_none_iff]
  · intro category key value
    rw [write_eq, ← lossReports_run]
  · have hrun := size_clauses_run empty actions
    rw [show empty.clauses.size = 0 from rfl, show empty.diagnostics = [] from rfl] at hrun
    simpa using hrun.symm
  · intro more
    rw [run_append]
    exact diagnostics_isPrefix_run _ more

end Draft

end FilterQuery
