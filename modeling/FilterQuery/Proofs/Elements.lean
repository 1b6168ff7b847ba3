import FilterQuery.Proofs.Composition
import FilterQuery.Proofs.PatternReports

/-!
# Matches for the elements of a list

An entry for list elements compiles its matches into a draft of their own, which is what a request with
nothing but these matches compiles to. Their clauses never meet those of the outer draft: the outer one
gets a single clause, under the key of the entry, and the diagnostics under names below that key.

What the entries behind can still see of an entry is which keys are written and by whom. Neither depends
on the matches, so other matches change the one clause and the entry's own diagnostics, and nothing else.
-/

namespace FilterQuery

section Library

variable [RegexLibrary]

namespace Draft

/-- The same keys are written, each by the same category. -/
structure SameOrigins (left right : Draft) : Prop where
  contains : ∀ key, left.clauses.contains key = right.clauses.contains key
  origins : left.origins = right.origins

omit [RegexLibrary] in
theorem SameOrigins.lossReports {left right : Draft} (h : SameOrigins left right)
    (category : Category) (key : String) :
    left.lossReports category key = right.lossReports category key := by
  rw [Draft.lossReports, Draft.lossReports, h.contains, h.origins]

theorem SameOrigins.perform {left right : Draft} (h : SameOrigins left right) (action : Action) :
    SameOrigins (left.perform action) (right.perform action) := by
  cases action with
  | count => exact ⟨h.contains, h.origins⟩
  | report category key reason => exact ⟨h.contains, h.origins⟩
  | absorb category key nested => exact ⟨h.contains, h.origins⟩
  | write category key value =>
      rw [Draft.perform, Draft.perform, write_eq, write_eq]
      constructor
      · intro k
        simp only [KeyMap.contains_insert, h.contains k]
      · simp only [h.origins]

theorem exists_said_perform (left : Draft) (action : Action) : ∃ said, ∀ right,
    SameOrigins left right → (right.perform action).diagnostics = right.diagnostics ++ said := by
  cases action with
  | count => exact ⟨[], fun _ _ => (List.append_nil _).symm⟩
  | report category key reason => exact ⟨_, fun _ _ => rfl⟩
  | absorb category key nested => exact ⟨_, fun _ _ => rfl⟩
  | write category key value =>
      refine ⟨faultReports category key value ++ left.lossReports category key, fun right h => ?_⟩
      rw [perform, write_eq, List.append_assoc, h.lossReports]

/-- A history says the same on all drafts with the same origins. -/
theorem exists_said_run (left : Draft) (actions : List Action) : ∃ said, ∀ right,
    SameOrigins left right → (right.run actions).diagnostics = right.diagnostics ++ said := by
  induction actions generalizing left with
  | nil => exact ⟨[], fun _ _ => (List.append_nil _).symm⟩
  | cons action rest ih =>
      obtain ⟨first, hfirst⟩ := left.exists_said_perform action
      obtain ⟨later, hlater⟩ := ih (left.perform action)
      refine ⟨first ++ later, fun right h => ?_⟩
      rw [run_cons, hlater _ (h.perform action), hfirst right h, List.append_assoc]

end Draft

open Draft

namespace ElemMatch

/-- The document of the matches under the operator. -/
def document (e : ElemMatch) : QueryValue := .operator "$elemMatch" (.ofDocument e.nested.clauses)

/-- What an entry with a key reports on a draft that does not have the key. -/
def ownReports (e : ElemMatch) : List Diagnostic :=
  e.nested.rehomed .element e.key ++ faultReports .element e.key e.document

variable {e : ElemMatch} (hkey : Text.isBlank e.key = false)

include hkey

theorem history_eq : (Entry.element e).history =
    [.count, .absorb .element e.key e.nested, .write .element e.key e.document] := by
  simp [Entry.history, Entry.notes, Entry.clause?, hkey, document, Entry.category]

theorem clause?_eq : (Entry.element e).clause? = some (e.key, e.document) := by
  rw [Entry.clause?, hkey]
  rfl

theorem get?_clauses_run_history (draft : Draft) (key : String) :
    (draft.run (Entry.element e).history).clauses.get? key =
      if key = e.key then some e.document else draft.clauses.get? key := by
  rw [history_eq hkey]
  simp only [run_cons, run_nil, perform, write_eq, KeyMap.get?_insert, absorb, count]

theorem origins_run_history (draft : Draft) :
    (draft.run (Entry.element e).history).origins = draft.origins.insert e.key .element := by
  rw [history_eq hkey]
  simp only [run_cons, run_nil, perform, write_eq, absorb, count]

theorem diagnostics_run_history (draft : Draft) :
    (draft.run (Entry.element e).history).diagnostics =
      draft.diagnostics ++ (e.ownReports ++ draft.lossReports .element e.key) := by
  rw [history_eq hkey]
  simp only [run_cons, run_nil, perform, write_eq, lossReports, absorb, count, ownReports, rehomed,
    List.append_assoc]

theorem parsed_run_history (draft : Draft) :
    (draft.run (Entry.element e).history).parsed = draft.parsed + 1 := by
  rw [history_eq hkey, parsed_run]
  rfl

omit hkey in
/-- The reports of the entry besides faulty patterns are those of its matches under other names. -/
theorem filter_ownReports (e : ElemMatch) :
    e.ownReports.filter (!·.reason.isInvalidPattern) =
      (e.nested.diagnostics.filter (!·.reason.isInvalidPattern)).map fun d =>
        ⟨.element, nestedKey e.key d.key, d.reason⟩ := by
  have hfaults : (faultReports .element e.key e.document).filter (!·.reason.isInvalidPattern) = [] := by
    rw [List.filter_eq_nil_iff]
    intro d hd
    obtain ⟨message, -, rfl⟩ := List.mem_map.1 hd
    exact Bool.false_ne_true
  rw [ownReports, List.filter_append, hfaults, List.append_nil, rehomed, List.filter_map]
  rfl

end ElemMatch

section Requests

variable {key : String} (hkey : Text.isBlank key = false) (ms other : List Match) (draft : Draft)

include hkey

theorem ElemMatch.sameOrigins_run_history :
    SameOrigins (draft.run (Entry.element ⟨key, ms⟩).history)
      (draft.run (Entry.element ⟨key, other⟩).history) := by
  constructor
  · intro k
    rw [KeyMap.contains, KeyMap.contains, get?_clauses_run_history hkey, get?_clauses_run_history hkey]
    split <;> rfl
  · rw [origins_run_history hkey, origins_run_history hkey]

namespace Request

omit hkey in
theorem draft_equalities : Request.draft { query := { equalities := ms } } = empty.addMatches ms := by
  rw [addMatches_eq_run, draft_eq_run, entries_eq]
  simp

omit hkey in
theorem draft_element (e : ElemMatch) :
    Request.draft { query := { elements := [e] } } = empty.run (Entry.element e).history := by
  rw [draft_eq_run, entries_eq]
  simp

theorem entries_clauses_draft_element :
    (Request.draft { query := { elements := [⟨key, ms⟩] } }).clauses.entries =
      [(key, (ElemMatch.mk key ms).document)] := by
  rw [draft_element, ElemMatch.history_eq (e := ⟨key, ms⟩) hkey]
  simp only [run_cons, run_nil, perform, write_eq]
  rfl

theorem diagnostics_draft_element :
    (Request.draft { query := { elements := [⟨key, ms⟩] } }).diagnostics =
      (ElemMatch.mk key ms).ownReports := by
  rw [draft_element, ElemMatch.diagnostics_run_history (e := ⟨key, ms⟩) hkey]
  exact List.append_nil _

/-- The request with other entries for list elements. -/
def withElements (r : Request) (elements : List ElemMatch) : Request :=
  { r with query := { r.query with elements } }

/-- The entries that are compiled before those for list elements, and the given ones of the latter. -/
def upToElements (r : Request) (elements : List ElemMatch) : Request :=
  { query := { equalities := r.query.equalities, substrings := r.query.substrings, elements } }

variable (r : Request) (before after : List ElemMatch)

omit hkey in
/-- The draft of a request goes through any of its entries for list elements. -/
theorem exists_draft_withElements (key : String) :
    ∃ actions, ∀ ms, (r.withElements (before ++ ⟨key, ms⟩ :: after)).draft =
      ((r.upToElements before).draft.run (Entry.element ⟨key, ms⟩).history).run actions := by
  let behind : List Entry := after.map .element ++ r.filter.ranges.map .range
    ++ r.filter.anyOf.map (.membership .anyOf) ++ r.filter.noneOf.map (.membership .noneOf)
    ++ r.filter.allOf.map (.membership .allOf)
  refine ⟨behind.flatMap Entry.history, fun ms => ?_⟩
  rw [draft_eq_run, draft_eq_run, ← run_append, ← run_append, entries_eq, entries_eq]
  simp [withElements, upToElements, behind]

theorem get?_draft_withElements {k : String} (hk : k ≠ key) :
    (r.withElements (before ++ ⟨key, ms⟩ :: after)).draft.clauses.get? k =
      (r.withElements (before ++ ⟨key, other⟩ :: after)).draft.clauses.get? k := by
  obtain ⟨actions, hdraft⟩ := r.exists_draft_withElements before after key
  have huntouched : ∀ ms, ((r.upToElements before).draft.run
      (Entry.element ⟨key, ms⟩).history).clauses.get? k =
        (r.upToElements before).draft.clauses.get? k := by
    intro ms
    rw [ElemMatch.get?_clauses_run_history (e := ⟨key, ms⟩) hkey, if_neg hk]
  rw [hdraft, hdraft, get?_clauses_run _ actions, get?_clauses_run _ actions, huntouched, huntouched]

theorem contains_draft_withElements :
    (r.withElements (before ++ ⟨key, ms⟩ :: after)).draft.clauses.contains key = true := by
  obtain ⟨actions, hdraft⟩ := r.exists_draft_withElements before after key
  rw [hdraft, KeyMap.contains, get?_clauses_run _ actions,
    ElemMatch.get?_clauses_run_history (e := ⟨key, ms⟩) hkey, if_pos rfl, Option.isSome_or,
    Option.isSome_some, Bool.or_true]

theorem parsed_draft_withElements :
    (r.withElements (before ++ ⟨key, ms⟩ :: after)).draft.parsed =
      (r.withElements (before ++ ⟨key, other⟩ :: after)).draft.parsed := by
  obtain ⟨actions, hdraft⟩ := r.exists_draft_withElements before after key
  rw [hdraft, hdraft, parsed_run _ actions, parsed_run _ actions,
    ElemMatch.parsed_run_history (e := ⟨key, ms⟩) hkey,
    ElemMatch.parsed_run_history (e := ⟨key, other⟩) hkey]

/-- What is said before and behind an entry does not depend on its matches. -/
theorem exists_diagnostics_withElements :
    ∃ later, ∀ ms, (r.withElements (before ++ ⟨key, ms⟩ :: after)).draft.diagnostics =
      (r.upToElements before).draft.diagnostics ++ ((ElemMatch.mk key ms).ownReports ++
        (r.upToElements before).draft.lossReports .element key) ++ later := by
  obtain ⟨actions, hdraft⟩ := r.exists_draft_withElements before after key
  obtain ⟨later, hlater⟩ := exists_said_run
    ((r.upToElements before).draft.run (Entry.element ⟨key, []⟩).history) actions
  refine ⟨later, fun ms => ?_⟩
  have horigins := ElemMatch.sameOrigins_run_history hkey [] ms (r.upToElements before).draft
  rw [hdraft, hlater _ horigins, ElemMatch.diagnostics_run_history (e := ⟨key, ms⟩) hkey]

end Request

end Requests

/-- **Matches for list elements are compiled on their own.** Alone, an entry with a key becomes one
clause, the document of what its matches compile to as a request of their own. Faulty patterns aside,
it reports what they report, under names below its key. In any request other matches in its place
leave the clauses under all other keys, the count, and the diagnostics of all other entries as they
are; its own diagnostics are those it has alone and perhaps the loss of an earlier clause. -/
theorem elements_are_compiled_alone {key : String} (hkey : Text.isBlank key = false)
    (ms : List Match) :
    ∃ sub alone : Compiled,
      Request.compile { query := { equalities := ms } } false = .ok sub ∧
      Request.compile { query := { elements := [⟨key, ms⟩] } } false = .ok alone ∧
      alone.clauses.entries = [(key, .document [("$elemMatch", .document sub.clauses.entries)])] ∧
      alone.parsed = 1 ∧
      alone.diagnostics.filter (!·.reason.isInvalidPattern) =
        (sub.diagnostics.filter (!·.reason.isInvalidPattern)).map (fun d =>
          ⟨.element, if d.key = "" then key else key ++ "." ++ d.key, d.reason⟩) ∧
      ∀ (r : Request) (before after : List ElemMatch) (other : List Match),
        ∃ earlier otherAlone whole changed : Compiled,
          (r.upToElements before).compile false = .ok earlier ∧
          Request.compile { query := { elements := [⟨key, other⟩] } } false = .ok otherAlone ∧
          (r.withElements (before ++ ⟨key, ms⟩ :: after)).compile false = .ok whole ∧
          (r.withElements (before ++ ⟨key, other⟩ :: after)).compile false = .ok changed ∧
          (∀ k, k ≠ key → whole.clauses.get? k = changed.clauses.get? k) ∧
          whole.clauses.contains key = true ∧ changed.clauses.contains key = true ∧
          whole.parsed = changed.parsed ∧
          ∃ lost later : List Diagnostic,
            (∀ d ∈ lost, ∃ previous, d = ⟨.element, key, .overwritten previous⟩) ∧
            whole.diagnostics = earlier.diagnostics ++ (alone.diagnostics ++ lost) ++ later ∧
            changed.diagnostics =
              earlier.diagnostics ++ (otherAlone.diagnostics ++ lost) ++ later := by
  have halone := Request.diagnostics_draft_element hkey
  refine ⟨(Request.draft { query := { equalities := ms } }).compiled,
    (Request.draft { query := { elements := [⟨key, ms⟩] } }).compiled, rfl, rfl, ?_, ?_, ?_, ?_⟩
  · rw [Draft.compiled, Draft.compiled, Request.entries_clauses_draft_element hkey,
      Request.draft_equalities]
    rfl
  · rw [Draft.compiled, Request.draft_element,
      ElemMatch.parsed_run_history (e := ⟨key, ms⟩) hkey]
    rfl
  · rw [Draft.compiled, Draft.compiled, halone, ElemMatch.filter_ownReports,
      Request.draft_equalities]
    rfl
  · intro r before after other
    obtain ⟨later, hdiagnostics⟩ := r.exists_diagnostics_withElements hkey before after
    refine ⟨_, _, _, _, rfl, rfl, rfl, rfl,
      fun k hk => r.get?_draft_withElements hkey ms other before after hk,
      r.contains_draft_withElements hkey ms before after,
      r.contains_draft_withElements hkey other before after,
      r.parsed_draft_withElements hkey ms other before after,
      (r.upToElements before).draft.lossReports .element key, later, ?_, ?_, ?_⟩
    · intro d hd
      rw [lossReports] at hd
      split at hd
      · exact ⟨_, List.mem_singleton.1 hd⟩
      · exact absurd hd List.not_mem_nil
    · rw [Draft.compiled, Draft.compiled, Draft.compiled, hdiagnostics, halone]
    · rw [Draft.compiled, Draft.compiled, Draft.compiled, hdiagnostics, halone]

end Library

/-- A field asked for twice and a match without a key. -/
def skuMatches : List Match := [⟨"sku", .string "X1"⟩, ⟨"", .bool true⟩, ⟨"sku", .int 2⟩]

theorem elements_are_compiled_alone_items :
    Text.isBlank "items" = false ∧ ∃ sub alone : Compiled,
      Request.compile { query := { equalities := skuMatches } } false = .ok sub ∧
      Request.compile { query := { elements := [⟨"items", skuMatches⟩] } } false = .ok alone ∧
      alone.clauses.entries =
        [("items", .document [("$elemMatch", .document sub.clauses.entries)])] ∧
      alone.diagnostics.filter (!·.reason.isInvalidPattern) =
        [⟨.element, "items", .blankKey⟩, ⟨.element, "items.sku", .overwritten .equality⟩] := by
  have hkey : Text.isBlank "items" = false := by decide
  obtain ⟨sub, alone, hsub, halone, hclauses, -, hdiagnostics, -⟩ :=
    elements_are_compiled_alone hkey skuMatches
  refine ⟨hkey, sub, alone, hsub, halone, hclauses, ?_⟩
  rw [hdiagnostics]
  cases hsub
  decide +kernel

end FilterQuery
