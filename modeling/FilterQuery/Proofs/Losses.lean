import FilterQuery.Proofs.Elements
import FilterQuery.Proofs.Origins
import Mathlib.Data.List.Nodup

/-!
# When no clause is lost

A write reports a loss exactly where its key was written before. So a history loses no clause if and
only if the keys that it writes are pairwise distinct and no loss was handed in from elsewhere, and this
can be read off its actions. The same holds of a list of entries with the keys of their clauses.

Where no clause is lost nothing depends on the order any more: the draft has the clauses of the entries,
each of them once, and what it says is what the entries say one after the other.
-/

namespace FilterQuery

open Draft

/-- No clause was lost to a later one. -/
def NoLoss (ds : List Diagnostic) : Prop := ∀ d ∈ ds, d.isOverwritten = false

theorem noLoss_append {first second : List Diagnostic} :
    NoLoss (first ++ second) ↔ NoLoss first ∧ NoLoss second :=
  List.forall_mem_append

theorem noLoss_rehomed {category : Category} {key : String} {nested : Draft} :
    NoLoss (nested.rehomed category key) ↔ NoLoss nested.diagnostics :=
  List.forall_mem_map

namespace Draft

def Action.writtenKey? : Action → Option String
  | .write _ key _ => some key
  | _ => none

/-- The keys that a history writes, in the order of its writes. -/
def writtenKeys (actions : List Action) : List String := actions.filterMap Action.writtenKey?

theorem noLoss_lossReports {draft : Draft} {category : Category} {key : String} :
    NoLoss (draft.lossReports category key) ↔ draft.clauses.contains key = false := by
  rw [lossReports]
  cases draft.clauses.contains key with
  | true => simp [NoLoss, Diagnostic.isOverwritten]
  | false => simp [NoLoss]

end Draft

variable [RegexLibrary]

namespace Draft

/-- A history loses no clause if and only if it hands in no loss and its writes meet neither one another
nor what was there before. -/
theorem noLoss_run_iff (draft : Draft) (actions : List Action) :
    NoLoss (draft.run actions).diagnostics ↔
      NoLoss draft.diagnostics ∧ NoLoss (actions.flatMap Action.diagnostics) ∧
        (∀ key ∈ writtenKeys actions, draft.clauses.contains key = false) ∧
        (writtenKeys actions).Nodup := by
  induction actions generalizing draft with
  | nil => simp [writtenKeys, NoLoss]
  | cons action rest ih =>
      rw [run_cons, ih, List.flatMap_cons, noLoss_append]
      cases hwrite : action.isWrite with
      | false =>
          obtain ⟨hclauses, -, hdiagnostics⟩ := draft.perform_of_not_isWrite hwrite
          have hkeys : writtenKeys (action :: rest) = writtenKeys rest := by
            cases action with
            | write category key value => cases hwrite
            | _ => rfl
          rw [hclauses, hdiagnostics, hkeys, noLoss_append]
          tauto
      | true =>
          cases action with
          | write category key value =>
              have hkeys : writtenKeys (.write category key value :: rest) =
                  key :: writtenKeys rest := rfl
              -- what comes after this write has to keep clear of its key too
              have hfresh : (∀ k ∈ writtenKeys rest,
                  (draft.clauses.insert key value).contains k = false) ↔
                    key ∉ writtenKeys rest ∧
                      ∀ k ∈ writtenKeys rest, draft.clauses.contains k = false := by
                simp only [KeyMap.contains_insert, Bool.or_eq_false_iff, beq_eq_false_iff_ne]
                constructor
                · intro h
                  exact ⟨fun hmem => (h key hmem).1 rfl, fun k hk => (h k hk).2⟩
                · rintro ⟨hnot, h⟩ k hk
                  exact ⟨fun heq => hnot (heq ▸ hk), h k hk⟩
              rw [perform, write_eq, hkeys, List.nodup_cons, List.forall_mem_cons]
              simp only [noLoss_append, noLoss_lossReports, hfresh, Action.diagnostics]
              tauto
          | _ => cases hwrite

theorem diagnostics_run_of_noLoss {actions : List Action}
    (h : NoLoss (empty.run actions).diagnostics) :
    (empty.run actions).diagnostics = actions.flatMap Action.diagnostics := by
  have hsaid : NoLoss (actions.flatMap Action.diagnostics) := ((noLoss_run_iff _ _).1 h).2.1
  have hkeep : ∀ {ds : List Diagnostic}, NoLoss ds → ds.filter (!·.isOverwritten) = ds := by
    intro ds hds
    rw [List.filter_eq_self]
    intro d hd
    rw [hds d hd]
    rfl
  calc (empty.run actions).diagnostics
      = (empty.run actions).diagnostics.filter (!·.isOverwritten) := (hkeep h).symm
    _ = (actions.flatMap Action.diagnostics).filter (!·.isOverwritten) :=
        filter_diagnostics_run_empty (!·.isOverwritten) (by simp) actions
    _ = actions.flatMap Action.diagnostics := hkeep hsaid

end Draft

/-- What an entry says on a draft that does not have its key. -/
def Entry.said (e : Entry) : List Diagnostic := e.history.flatMap Action.diagnostics

theorem Draft.run_of_forall_not_isWrite {actions : List Action}
    (h : ∀ action ∈ actions, action.isWrite = false) (draft : Draft) :
    (draft.run actions).clauses = draft.clauses ∧
      (draft.run actions).diagnostics = draft.diagnostics ++ actions.flatMap Action.diagnostics := by
  induction actions generalizing draft with
  | nil => exact ⟨rfl, (List.append_nil _).symm⟩
  | cons action rest ih =>
      obtain ⟨haction, hrest⟩ := List.forall_mem_cons.1 h
      obtain ⟨hclauses, -, hdiagnostics⟩ := draft.perform_of_not_isWrite haction
      obtain ⟨hlater, hsaid⟩ := ih hrest (draft.perform action)
      rw [run_cons, hlater, hsaid, hclauses, hdiagnostics, List.flatMap_cons, List.append_assoc]
      exact ⟨rfl, rfl⟩

theorem Entry.isWrite_of_mem_notes {e : Entry} : ∀ action ∈ e.notes, action.isWrite = false := by
  intro action haction
  rcases cases_of_mem_notes haction with rfl | ⟨path, reason, rfl, -⟩ | ⟨m, -, rfl⟩
  · rfl
  · rfl
  · rfl

/-- An entry alone is compiled to its clause, if it has one, and reports all that it says. -/
theorem Entry.compiled_eq (e : Entry) :
    e.compiled.clauses.entries = e.clause?.toList ∧ e.compiled.diagnostics = e.said := by
  obtain ⟨hclauses, hdiagnostics⟩ := empty.run_of_forall_not_isWrite e.isWrite_of_mem_notes
  have hstart : (empty.run e.notes).diagnostics = e.notes.flatMap Action.diagnostics := hdiagnostics
  rw [compiled, said, history, run_append, List.flatMap_append, ← hstart, Draft.compiled]
  cases e.clause? with
  | none => exact ⟨congrArg KeyMap.entries hclauses, (List.append_nil _).symm⟩
  | some c =>
      have hfresh : (empty.run e.notes).lossReports e.category c.1 = [] := by
        rw [lossReports, hclauses]
        rfl
      simp only [Option.toList_some, List.map_cons, List.map_nil, run_cons, run_nil, perform, write_eq,
        hclauses, hfresh, List.flatMap_cons, List.flatMap_nil, List.append_nil, Action.diagnostics]
      exact ⟨rfl, trivial⟩

theorem ElemMatch.said_eq {e : ElemMatch} (hkey : Text.isBlank e.key = false) :
    (Entry.element e).said = e.ownReports := by
  rw [Entry.said, history_eq hkey]
  simp only [List.flatMap_cons, List.flatMap_nil, Action.diagnostics, List.nil_append,
    List.append_nil]
  rfl

namespace Entry

theorem flatMap_diagnostics_flatMap_history (entries : List Entry) :
    (entries.flatMap Entry.history).flatMap Action.diagnostics = entries.flatMap Entry.said :=
  List.flatMap_assoc

theorem writtenKeys_history (e : Entry) :
    writtenKeys e.history = e.clause?.toList.map Prod.fst := by
  have hnotes : writtenKeys e.notes = [] := by
    rw [writtenKeys, List.filterMap_eq_nil_iff]
    intro action haction
    have hnone := fun key => e.written?_eq_none_of_mem_notes key action haction
    cases action with
    | write category key value => simpa [Action.written?] using hnone key
    | _ => rfl
  rw [writtenKeys] at hnotes
  rw [history, writtenKeys, List.filterMap_append, hnotes, List.nil_append]
  cases e.clause? with
  | none => rfl
  | some c => rfl

variable {entries : List Entry}

theorem writtenKeys_flatMap_history :
    writtenKeys (entries.flatMap Entry.history) = (entries.filterMap Entry.clause?).map Prod.fst := by
  induction entries with
  | nil => rfl
  | cons e rest ih =>
      have he := e.writtenKeys_history
      rw [writtenKeys] at ih he
      rw [writtenKeys, List.flatMap_cons, List.filterMap_append, ih, he, List.filterMap_cons]
      cases e.clause? with
      | none => rfl
      | some c => rfl

/-- Entries lose no clause if and only if none of them does alone and their clauses have distinct keys. -/
theorem noLoss_run_iff :
    NoLoss (empty.run (entries.flatMap Entry.history)).diagnostics ↔
      NoLoss (entries.flatMap Entry.said) ∧
        ((entries.filterMap Entry.clause?).map Prod.fst).Nodup := by
  have hstart : NoLoss empty.diagnostics := fun d hd => absurd hd List.not_mem_nil
  have hfresh : ∀ key, empty.clauses.contains key = false := fun key => rfl
  rw [Draft.noLoss_run_iff, flatMap_diagnostics_flatMap_history, writtenKeys_flatMap_history]
  simp only [hstart, hfresh, implies_true, true_and]

variable (h : NoLoss (empty.run (entries.flatMap Entry.history)).diagnostics)

include h

theorem diagnostics_run_of_noLoss :
    (empty.run (entries.flatMap Entry.history)).diagnostics = entries.flatMap Entry.said := by
  rw [Draft.diagnostics_run_of_noLoss h, flatMap_diagnostics_flatMap_history]

/-- The draft has the clauses of the entries, each of them once. -/
theorem clauses_run_perm_of_noLoss :
    (empty.run (entries.flatMap Entry.history)).clauses.entries.Perm
      (entries.filterMap Entry.clause?) := by
  have hkeys : ((entries.filterMap Entry.clause?).map Prod.fst).Nodup := (noLoss_run_iff.1 h).2
  have hclauses := (empty.run (entries.flatMap Entry.history)).clauses.ascending
  have hmem : ∀ {key value}, (empty.run (entries.flatMap Entry.history)).clauses.get? key = some value →
      (key, value) ∈ entries.filterMap Entry.clause? := fun hget =>
    List.mem_filterMap.2 (Entry.exists_of_get?_run hget)
  rw [List.perm_ext_iff_of_nodup (.of_map Prod.fst (nodup_keys_of_ascending hclauses))
    (.of_map Prod.fst hkeys)]
  rintro ⟨key, value⟩
  rw [← KeyMap.get?_eq_some_iff]
  refine ⟨hmem, fun hin => ?_⟩
  obtain ⟨e, he, hclause⟩ := List.mem_filterMap.1 hin
  obtain ⟨found, hfound⟩ := Option.ne_none_iff_exists'.1 (Entry.get?_run_ne_none he hclause)
  -- what was found is a clause of some entry too, and no two of them share the key
  have hlookup := (lookup_eq_some_iff_of_nodup hkeys).2 hin
  rw [(lookup_eq_some_iff_of_nodup hkeys).2 (hmem hfound)] at hlookup
  rw [hfound, hlookup]

end Entry

end FilterQuery
