import FilterQuery.Proofs.Accounting
import FilterQuery.Proofs.Losses

/-!
# Nothing is lost in silence

There are many ways in which less comes of an entry than was asked for: it is skipped, its value means
nothing, an element of its list is dropped, its range has no bounds, its clause is lost to a later one.
Each of them leaves a diagnostic, those inside an entry for list elements included. Read the other way
round: an entry that says nothing has a clause with everything that was asked for in it, and entries
that say nothing together lose none of their clauses. So a request that is compiled without diagnostics
is found in its query document entry by entry.
-/

namespace FilterQuery

open Draft

theorem droppedPositions_eq_nil_iff (index : Nat) {values : List RequestValue} :
    droppedPositions index values = [] ↔ ∀ v ∈ values, v.element?.isSome = true := by
  induction values generalizing index with
  | nil => simp [droppedPositions]
  | cons v rest ih =>
      rw [droppedPositions, List.forall_mem_cons]
      cases v.element? with
      | none => simp
      | some item => simp [ih]

/-- An element of a list is what the value means under a field. -/
theorem RequestValue.asField?_of_element? {v : RequestValue} {item : QueryValue}
    (h : v.element? = some item) : v.asField? = some item := by
  rw [asField?_eq_meaning]
  cases v with
  | string s => cases h; rfl
  | int n => cases h; rfl
  | float x => cases h; rfl
  | bool b => cases h; rfl
  | _ => cases h

theorem RequestValue.map_some_filterMap_element? {values : List RequestValue}
    (h : ∀ v ∈ values, v.element?.isSome = true) :
    (values.filterMap RequestValue.element?).map some = values.map RequestValue.asField? := by
  induction values with
  | nil => rfl
  | cons v rest ih =>
      rw [List.forall_mem_cons] at h
      obtain ⟨item, hitem⟩ := Option.isSome_iff_exists.1 h.1
      rw [List.filterMap_cons_some hitem, List.map_cons, List.map_cons, ih h.2,
        asField?_of_element? hitem]

def FilterPart.memberships (f : FilterPart) : Quantifier → List Membership
  | .anyOf => f.anyOf
  | .noneOf => f.noneOf
  | .allOf => f.allOf

namespace Request

variable {r : Request}

theorem mem_entries_of_element {e : ElemMatch} (he : e ∈ r.query.elements) :
    .element e ∈ r.entries := by
  simp [entries_eq, he]

theorem mem_entries_of_range {x : Range} (hx : x ∈ r.filter.ranges) : .range x ∈ r.entries := by
  simp [entries_eq, hx]

theorem mem_entries_of_membership {q : Quantifier} {m : Membership}
    (hm : m ∈ r.filter.memberships q) : .membership q m ∈ r.entries := by
  cases q with
  | _ => simpa [entries_eq, FilterPart.memberships] using hm

end Request

section Library

variable [RegexLibrary]

namespace Entry

theorem mem_said_of_report {e : Entry} {category : Category} {key : String} {reason : Reason}
    (h : .report category key reason ∈ e.notes) : ⟨category, key, reason⟩ ∈ e.said :=
  List.mem_flatMap.2 ⟨_, List.mem_append_left _ h, List.mem_singleton.2 rfl⟩

variable {e : Entry} (h : e.said = [])

include h

theorem not_mem_notes_of_said_eq_nil (category : Category) (key : String) (reason : Reason) :
    .report category key reason ∉ e.notes := by
  intro hmem
  have hsaid := mem_said_of_report hmem
  rw [h] at hsaid
  exact List.not_mem_nil hsaid

theorem isSkipped_of_said_eq_nil : e.isSkipped = false := by
  rw [Bool.eq_false_iff]
  intro hskipped
  obtain ⟨reason, -, hhistory⟩ := history_of_isSkipped hskipped
  rw [said, hhistory] at h
  cases h

omit h in
theorem exists_clause?_membership {q : Quantifier} {m : Membership}
    (h : (Entry.membership q m).said = []) : ∃ values, m.value = some values ∧
      (∀ v ∈ values, v.element?.isSome = true) ∧
      (Entry.membership q m).clause? = some (m.key,
        .operator q.operator (.array (values.filterMap RequestValue.element?))) := by
  obtain ⟨hkey, hvalue⟩ := Bool.or_eq_false_iff.1 (isSkipped_of_said_eq_nil h)
  obtain ⟨values, hvalues⟩ := Option.isSome_iff_exists.1 (Option.isNone_eq_false_iff.1 hvalue)
  refine ⟨values, hvalues, ?_, by simp [clause?, hkey, hvalues]⟩
  -- a dropped position would be reported
  rw [← droppedPositions_eq_nil_iff 0, List.eq_nil_iff_forall_not_mem]
  intro index hindex
  apply not_mem_notes_of_said_eq_nil h q.category m.key (.droppedElement index)
  simp only [notes, hkey, hvalues, Bool.false_eq_true, ↓reduceIte]
  exact List.mem_cons_of_mem _ (List.mem_map.2 ⟨index, hindex, rfl⟩)

omit h in
theorem exists_clause?_range {r : Range} (h : (Entry.range r).said = []) :
    ∃ bounds, r.value = some bounds ∧ bounds.document.isEmpty = false ∧
      (Entry.range r).clause? = some (r.key, .ofDocument bounds.document) := by
  obtain ⟨hkey, hvalue⟩ := Bool.or_eq_false_iff.1 (isSkipped_of_said_eq_nil h)
  obtain ⟨bounds, hbounds⟩ := Option.isSome_iff_exists.1 (Option.isNone_eq_false_iff.1 hvalue)
  refine ⟨bounds, hbounds, ?_, by simp [clause?, hkey, hbounds]⟩
  rw [Bool.eq_false_iff]
  intro hempty
  apply not_mem_notes_of_said_eq_nil h .range r.key .emptyRange
  simp [notes, hkey, hbounds, hempty]

theorem exists_clause? : ∃ c, e.clause? = some c := by
  have hskipped := isSkipped_of_said_eq_nil h
  cases e with
  | equality m =>
      have hkey : Text.isBlank m.key = false := hskipped
      cases hvalue : m.clause.1 with
      | some v => exact ⟨(m.path, v), by simp [clause?, hkey, hvalue]⟩
      | none =>
          have hfault : .report .equality m.path m.value.fault ∈ (Entry.equality m).notes := by
            simp [notes, hkey, hvalue]
          exact absurd hfault (not_mem_notes_of_said_eq_nil h _ _ _)
  | substring l =>
      obtain ⟨hkey, hvalue⟩ := Bool.or_eq_false_iff.1 hskipped
      exact ⟨(l.key, .regex (.containing l.value)), by simp [clause?, hkey, hvalue]⟩
  | element m => exact ⟨_, ElemMatch.clause?_eq hskipped⟩
  | range r =>
      obtain ⟨bounds, -, -, hclause⟩ := exists_clause?_range h
      exact ⟨_, hclause⟩
  | membership q m =>
      obtain ⟨values, -, -, hclause⟩ := exists_clause?_membership h
      exact ⟨_, hclause⟩

end Entry

namespace Entry

variable {entries : List Entry}
  (h : (empty.run (entries.flatMap Entry.history)).diagnostics = [])

include h

theorem noLoss_of_diagnostics_eq_nil :
    NoLoss (empty.run (entries.flatMap Entry.history)).diagnostics := by
  rw [h]
  exact fun d hd => absurd hd List.not_mem_nil

theorem said_eq_nil_of_mem {e : Entry} (he : e ∈ entries) : e.said = [] := by
  rw [diagnostics_run_of_noLoss (noLoss_of_diagnostics_eq_nil h), List.flatMap_eq_nil_iff] at h
  exact h e he

/-- Every entry has its clause. -/
theorem get?_run_of_clause? {e : Entry} (he : e ∈ entries) {key : String} {value : QueryValue}
    (hclause : e.clause? = some (key, value)) :
    (empty.run (entries.flatMap Entry.history)).clauses.get? key = some value := by
  have hperm := clauses_run_perm_of_noLoss (noLoss_of_diagnostics_eq_nil h)
  rw [KeyMap.get?_eq_some_iff, hperm.mem_iff]
  exact List.mem_filterMap.2 ⟨e, he, hclause⟩

/-- There are as many clauses as entries. -/
theorem size_clauses_run : (empty.run (entries.flatMap Entry.history)).clauses.size =
    entries.length := by
  have hperm := clauses_run_perm_of_noLoss (noLoss_of_diagnostics_eq_nil h)
  have hall : ∀ e ∈ entries, e.clause?.isSome = true := fun e he =>
    Option.isSome_iff_exists.2 (exists_clause? (said_eq_nil_of_mem h he))
  rw [KeyMap.size, hperm.length_eq, List.length_filterMap_eq_countP]
  exact List.countP_eq_length.2 hall

end Entry

/-- Matches that say nothing all have their clause in the nested document. -/
theorem ElemMatch.size_clauses_nested {e : ElemMatch} (h : (Entry.element e).said = []) :
    e.nested.clauses.size = e.value.length := by
  have hnested : e.nested.diagnostics = [] := by
    rw [said_eq (Entry.isSkipped_of_said_eq_nil h)] at h
    exact List.map_eq_nil_iff.1 (List.append_eq_nil_iff.1 h).1
  rw [nested_eq_run] at hnested
  rw [nested_eq_run, Entry.size_clauses_run hnested, List.length_map]

theorem Request.parsed_draft_of_diagnostics_eq_nil {r : Request}
    (h : r.draft.diagnostics = []) :
    r.draft.parsed = r.entryCount := by
  rw [draft_eq_run] at h
  have hcounts : ∀ e ∈ r.entries, (!e.isSkipped) = true := by
    intro e he
    rw [Entry.isSkipped_of_said_eq_nil (Entry.said_eq_nil_of_mem h he)]
    rfl
  rw [parsed_draft_eq_countP, List.countP_eq_length.2 hcounts, length_entries]

/-- **A request that is compiled without diagnostics lost nothing.** It has as many clauses as entries,
all of them counted, and every entry finds its clause under its key. An entry for list elements has one
clause for each match in its document, a list of values has what each value means, at its place, and a
range has at least one bound. -/
theorem compile_of_diagnostics_eq_nil {r : Request} {c : Compiled} (hc : r.compile false = .ok c)
    (hsilent : c.diagnostics = []) :
    c.clauses.size = c.parsed ∧ c.parsed = r.entryCount ∧
      (∀ e ∈ r.entries, ∃ key value, e.clause? = some (key, value) ∧
        c.clauses.get? key = some value) ∧
      (∀ e ∈ r.query.elements, ∃ sub : QueryDocument,
        c.clauses.get? e.key = some (.operator "$elemMatch" (.ofDocument sub)) ∧
          sub.size = e.value.length) ∧
      (∀ q, ∀ m ∈ r.filter.memberships q, ∃ values items, m.value = some values ∧
        c.clauses.get? m.key = some (.operator q.operator (.array items)) ∧
          items.length = values.length ∧
          items.map some = values.map RequestValue.asField?) ∧
      ∀ x ∈ r.filter.ranges, ∃ doc : QueryDocument,
        c.clauses.get? x.key = some (.ofDocument doc) ∧ doc.isEmpty = false := by
  rw [r.eq_of_compile_eq_ok hc] at hsilent ⊢
  have hparsed : r.draft.parsed = r.entryCount := Request.parsed_draft_of_diagnostics_eq_nil hsilent
  rw [Draft.compiled, r.draft_eq_run] at hsilent
  simp only [Draft.compiled]
  have hsize : r.draft.clauses.size = r.entryCount := by
    rw [r.draft_eq_run, Entry.size_clauses_run hsilent, r.length_entries]
  have hsaid : ∀ {e}, e ∈ r.entries → e.said = [] := fun he => Entry.said_eq_nil_of_mem hsilent he
  have hget : ∀ {e key value}, e ∈ r.entries → e.clause? = some (key, value) →
      r.draft.clauses.get? key = some value := by
    intro e key value he hclause
    rw [r.draft_eq_run]
    exact Entry.get?_run_of_clause? hsilent he hclause
  refine ⟨hsize.trans hparsed.symm, hparsed, ?_, ?_, ?_, ?_⟩
  · intro e he
    obtain ⟨⟨key, value⟩, hclause⟩ := Entry.exists_clause? (hsaid he)
    exact ⟨key, value, hclause, hget he hclause⟩
  · intro e he
    have hmem := Request.mem_entries_of_element he
    have hclause := ElemMatch.clause?_eq (Entry.isSkipped_of_said_eq_nil (hsaid hmem))
    exact ⟨e.nested.clauses, hget hmem hclause, ElemMatch.size_clauses_nested (hsaid hmem)⟩
  · intro q m hm
    have hmem := Request.mem_entries_of_membership hm
    obtain ⟨values, hvalues, hall, hclause⟩ := Entry.exists_clause?_membership (hsaid hmem)
    have hitems := RequestValue.map_some_filterMap_element? hall
    refine ⟨values, _, hvalues, hget hmem hclause, ?_, hitems⟩
    simpa using congrArg List.length hitems
  · intro x hx
    have hmem := Request.mem_entries_of_range hx
    obtain ⟨bounds, -, hdocument, hclause⟩ := Entry.exists_clause?_range (hsaid hmem)
    exact ⟨bounds.document, hget hmem hclause, hdocument⟩

end Library

/-- An entry of every kind, with nothing to complain of. -/
def flawlessRequest : Request where
  query :=
    { equalities := [⟨"status", .string "open"⟩]
      substrings := [⟨"name", "jo"⟩]
      elements := [⟨"items", [⟨"sku", .string "X1"⟩, ⟨"qty", .pair "$gt" (.int 2)⟩]⟩] }
  filter :=
    { ranges := [⟨"age", some { gte := some (.bool true) }⟩]
      anyOf := [⟨"kind", some [.string "a", .int 1]⟩] }

theorem compile_flawlessRequest : ∃ c, flawlessRequest.compile false = .ok c ∧ c.diagnostics = [] ∧
    c.clauses.size = 5 ∧ c.parsed = 5 ∧
    (∃ sub : QueryDocument,
      c.clauses.get? "items" = some (.operator "$elemMatch" (.ofDocument sub)) ∧ sub.size = 2) ∧
    ∃ items, c.clauses.get? "kind" = some (.operator "$in" (.array items)) ∧ items.length = 2 := by
  have hsilent : flawlessRequest.draft.compiled.diagnostics = [] := by decide +kernel
  obtain ⟨hsize, hparsed, -, helements, hmemberships, -⟩ :=
    compile_of_diagnostics_eq_nil flawlessRequest.compile_false hsilent
  have hcount : flawlessRequest.entryCount = 5 := rfl
  refine ⟨_, flawlessRequest.compile_false, hsilent, hsize.trans (hparsed.trans hcount),
    hparsed.trans hcount, ?_, ?_⟩
  · exact helements _ List.mem_cons_self
  · obtain ⟨values, items, hvalues, hget, hlength, -⟩ := hmemberships .anyOf _ List.mem_cons_self
    cases hvalues
    exact ⟨items, hget, hlength⟩

end FilterQuery
