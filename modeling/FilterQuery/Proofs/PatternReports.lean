import FilterQuery.Proofs.Composition
import FilterQuery.Regex.Engine

/-!
# How often a faulty pattern is reported

A pattern that is no regular expression is reported by the write of the value it stands in. An entry
for list elements writes twice: its matches write into a nested draft, whose diagnostics are taken
over, and the document of that draft is written as a whole. A pattern of a match that still has its
clause in the document is therefore seen by two writes.

The accounting below charges every report to a value that some entry makes, and finds one surplus: the
patterns of the nested documents. So every faulty pattern is reported exactly once if and only if no
nested document holds one.
-/

namespace FilterQuery

open Draft

def Reason.isInvalidPattern : Reason → Bool
  | .invalidPattern _ => true
  | _ => false

def patternReports (ds : List Diagnostic) : Nat := ds.countP fun d => d.reason.isInvalidPattern

theorem patternReports_append (first second : List Diagnostic) :
    patternReports (first ++ second) = patternReports first + patternReports second :=
  List.countP_append

theorem patternReports_flatMap {α : Type} (items : List α) (said : α → List Diagnostic) :
    patternReports (items.flatMap said) = (items.map fun i => patternReports (said i)).sum :=
  List.countP_flatMap

theorem patternReports_rehomed (category : Category) (key : String) (nested : Draft) :
    patternReports (nested.rehomed category key) = patternReports nested.diagnostics :=
  countP_rehomed Reason.isInvalidPattern category key nested

theorem Reason.isInvalidPattern_of_isOmission {reason : Reason} (h : reason.isOmission = true) :
    reason.isInvalidPattern = false := by
  cases reason with
  | invalidPattern message => cases h
  | _ => rfl

theorem Entry.MayReport.isInvalidPattern_eq {e : Entry} {path : String} {reason : Reason}
    (h : e.MayReport path reason) : reason.isInvalidPattern = false := by
  cases h with
  | omission hkey hi => exact Reason.isInvalidPattern_of_isOmission (Match.isOmission_of_mem_clause _ _ hi)
  | fault hkey hnone => exact Reason.isInvalidPattern_of_isOmission (RequestValue.isOmission_fault _)
  | _ => rfl

namespace QueryValue

theorem entryPatterns_insertEntry {key : String} {value : QueryValue}
    {entries : List (String × QueryValue)} (hvalue : value.patterns = [])
    (hentries : entryPatterns entries = []) :
    entryPatterns (insertEntry key value entries) = [] := by
  induction entries with
  | nil => simp [insertEntry, entryPatterns, hvalue]
  | cons head rest ih =>
      obtain ⟨k, v⟩ := head
      obtain ⟨hv, hrest⟩ := List.append_eq_nil_iff.1 hentries
      rw [insertEntry]
      split
      · simp [entryPatterns, hvalue, hv, hrest]
      · split
        · simp [entryPatterns, hvalue, hrest]
        · simp [entryPatterns, hv, ih hrest]

mutual

/-- What is taken over from JSON as it stands holds no pattern. -/
theorem patterns_ofJson (v : Json) : (ofJson v).patterns = [] := by
  cases v with
  | null => rfl
  | bool b => rfl
  | number n =>
      cases n with
      | _ => rfl
  | string s => rfl
  | array items =>
      rw [ofJson, patterns]
      exact itemPatterns_ofItems items
  | object members =>
      rw [ofJson, patterns]
      exact entryPatterns_ofMembers members [] rfl

theorem itemPatterns_ofItems (items : List Json) : itemPatterns (ofItems items) = [] := by
  cases items with
  | nil => rfl
  | cons item rest =>
      rw [ofItems, itemPatterns, patterns_ofJson item, itemPatterns_ofItems rest]
      rfl

theorem entryPatterns_ofMembers (members : List (String × Json))
    (entries : List (String × QueryValue)) (hentries : entryPatterns entries = []) :
    entryPatterns (ofMembers members entries) = [] := by
  cases members with
  | nil =>
      rw [ofMembers]
      exact hentries
  | cons head rest =>
      obtain ⟨k, v⟩ := head
      rw [ofMembers]
      exact entryPatterns_ofMembers rest _
        (entryPatterns_insertEntry (patterns_ofJson v) hentries)

end

end QueryValue

theorem QueryValue.entryPatterns_eq_nil {entries : List (String × QueryValue)}
    (h : ∀ c ∈ entries, c.2.patterns = []) : entryPatterns entries = [] := by
  induction entries with
  | nil => rfl
  | cons c rest ih =>
      obtain ⟨hc, hrest⟩ := List.forall_mem_cons.1 h
      rw [entryPatterns, hc, ih hrest]
      rfl

/-- What the document of the bounds holds is one of the bounds, as it stands. -/
theorem Bounds.exists_of_mem_document {b : Bounds} {c : String × QueryValue}
    (h : c ∈ b.document.entries) :
    ∃ v, (c.1, some v) ∈ b.operators ∧ v.isNull = false ∧ c.2 = .ofJson v := by
  obtain ⟨⟨op, bound⟩, hop, hsome⟩ := List.mem_filterMap.1 (KeyMap.mem_of_mem_ofList h)
  obtain ⟨v, hv, rfl⟩ := Option.map_eq_some_iff.1 hsome
  obtain ⟨rfl, hkept⟩ := Option.filter_eq_some_iff.1 hv
  have hnull : v.isNull = false := by simpa using hkept
  exact ⟨v, hop, hnull, rfl⟩

theorem Bounds.patterns_document (b : Bounds) :
    (QueryValue.ofDocument b.document).patterns = [] := by
  apply QueryValue.entryPatterns_eq_nil
  intro c hc
  obtain ⟨v, -, -, hv⟩ := exists_of_mem_document hc
  rw [hv]
  exact QueryValue.patterns_ofJson v

section Library

variable [RegexLibrary]

def Pattern.isFaulty (p : Pattern) : Bool :=
  match p.toRegex with
  | .ok _ => false
  | .error _ => true

def QueryValue.faultyPatterns (v : QueryValue) : Nat := v.patterns.countP Pattern.isFaulty

namespace Entry

/-- The values of the clauses that an entry is asked for. An entry for list elements is asked for those
of its matches; the document that holds them is none of them. -/
def values : Entry → List QueryValue
  | .equality m => (Entry.equality m).clause?.toList.map Prod.snd
  | .substring l => (Entry.substring l).clause?.toList.map Prod.snd
  | .element e =>
    if Text.isBlank e.key then []
    else e.value.flatMap fun m => (Entry.equality m).clause?.toList.map Prod.snd
  | .range _ => []
  | .membership q m => (Entry.membership q m).clause?.toList.map Prod.snd

def faultyPatterns (e : Entry) : Nat := (e.values.map QueryValue.faultyPatterns).sum

end Entry

/-- How many faulty patterns the document of the matches holds, once they have overwritten one
another. An entry with a blank key has no document. -/
def ElemMatch.faultyInDocument (e : ElemMatch) : Nat :=
  if Text.isBlank e.key then 0 else (QueryValue.ofDocument e.nested.clauses).faultyPatterns

theorem Pattern.isSome_fault? (p : Pattern) : p.fault?.isSome = p.isFaulty := by
  unfold fault? isFaulty
  cases p.toRegex with
  | ok e => rfl
  | error message => rfl

theorem QueryValue.length_patternFaults (v : QueryValue) :
    v.patternFaults.length = v.faultyPatterns := by
  unfold patternFaults faultyPatterns
  rw [List.length_filterMap_eq_countP]
  congr 1
  funext p
  exact p.isSome_fault?

/-- A history reports what its actions report, whatever clauses are lost in it. -/
theorem patternReports_run (actions : List Action) :
    patternReports (empty.run actions).diagnostics =
      patternReports (actions.flatMap Action.diagnostics) := by
  have hlost : ∀ d : Diagnostic, d.isOverwritten = true → d.reason.isInvalidPattern = false := by
    intro d hd
    unfold Diagnostic.isOverwritten at hd
    cases hreason : d.reason with
    | overwritten previous => rfl
    | _ => rw [hreason] at hd; cases hd
  exact countP_diagnostics_run_empty _ hlost actions

theorem patternReports_faultReports (category : Category) (key : String) (value : QueryValue) :
    patternReports (faultReports category key value) = value.faultyPatterns := by
  rw [← value.length_patternFaults, ← List.length_map, patternReports]
  refine List.countP_eq_length.2 fun d hd => ?_
  obtain ⟨message, -, rfl⟩ := List.mem_map.1 hd
  rfl

theorem patternReports_eq_zero {actions : List Action}
    (h : ∀ a ∈ actions, patternReports a.diagnostics = 0) :
    patternReports (actions.flatMap Action.diagnostics) = 0 := by
  rw [patternReports_flatMap, List.sum_eq_zero_iff_forall_eq_nat]
  intro n hn
  obtain ⟨a, ha, rfl⟩ := List.mem_map.1 hn
  exact h a ha

namespace Entry

theorem patternReports_history (e : Entry) :
    patternReports (e.history.flatMap Action.diagnostics) =
      patternReports (e.notes.flatMap Action.diagnostics) +
        ((e.clause?.toList.map Prod.snd).map QueryValue.faultyPatterns).sum := by
  rw [history, List.flatMap_append, patternReports_append]
  congr 1
  cases e.clause? with
  | none => rfl
  | some c =>
      have hwrite := patternReports_faultReports e.category c.1 c.2
      simpa [Action.diagnostics] using hwrite

/-- Only a nested draft can note a faulty pattern. -/
theorem patternReports_notes {e : Entry} (helement : e.element? = none) :
    patternReports (e.notes.flatMap Action.diagnostics) = 0 := by
  apply patternReports_eq_zero
  intro action haction
  rcases cases_of_mem_notes haction with rfl | ⟨path, reason, rfl, hreport⟩ | ⟨m, rfl, -⟩
  · rfl
  · simp [Action.diagnostics, patternReports, hreport.isInvalidPattern_eq]
  · cases helement

theorem patternReports_history_equality (m : Match) :
    patternReports ((Entry.equality m).history.flatMap Action.diagnostics) =
      (Entry.equality m).faultyPatterns := by
  rw [patternReports_history, patternReports_notes rfl, Nat.zero_add]
  rfl

end Entry

/-- The nested draft reports the faulty patterns of the clauses of all matches, also of those whose
clause was overwritten. -/
theorem ElemMatch.patternReports_nested (e : ElemMatch) :
    patternReports e.nested.diagnostics =
      ((e.value.flatMap fun m => (Entry.equality m).values).map QueryValue.faultyPatterns).sum := by
  rw [nested_eq_run, patternReports_run]
  induction e.value with
  | nil => rfl
  | cons m rest ih =>
      rw [List.map_cons, List.flatMap_cons, List.flatMap_append, patternReports_append, ih,
        Entry.patternReports_history_equality, List.flatMap_cons, List.map_append, List.sum_append]
      rfl

/-- How many reports an entry makes beyond one for each faulty pattern. -/
def Entry.surplus : Entry → Nat
  | .element e => e.faultyInDocument
  | _ => 0

theorem Entry.patternReports_history_eq (e : Entry) :
    patternReports (e.history.flatMap Action.diagnostics) = e.faultyPatterns + e.surplus := by
  cases e with
  | equality m => exact patternReports_history_equality m
  | substring l =>
      rw [patternReports_history, patternReports_notes rfl, Nat.zero_add]
      rfl
  | range r =>
      rw [patternReports_history, patternReports_notes rfl, Nat.zero_add, clause?]
      cases Text.isBlank r.key with
      | true => rfl
      | false =>
          cases r.value with
          | none => rfl
          | some bounds =>
              have hnone : (QueryValue.ofDocument bounds.document).faultyPatterns = 0 := by
                rw [QueryValue.faultyPatterns, bounds.patterns_document]
                rfl
              simp [hnone, faultyPatterns, values, surplus]
  | membership q m =>
      rw [patternReports_history, patternReports_notes rfl, Nat.zero_add]
      rfl
  | element e =>
      rw [patternReports_history, notes, clause?, faultyPatterns, values, surplus,
        ElemMatch.faultyInDocument]
      cases Text.isBlank e.key with
      | true => rfl
      | false =>
          have hdocument : (QueryValue.operator "$elemMatch"
              (.ofDocument e.nested.clauses)).faultyPatterns =
                (QueryValue.ofDocument e.nested.clauses).faultyPatterns := by
            simp [QueryValue.faultyPatterns, QueryValue.operator, QueryValue.patterns,
              QueryValue.entryPatterns]
          have hnotes : patternReports ([Action.count, .absorb .element e.key e.nested].flatMap
              Action.diagnostics) = patternReports e.nested.diagnostics := by
            simp only [List.flatMap_cons, List.flatMap_nil, List.append_nil, Action.diagnostics,
              List.nil_append]
            exact patternReports_rehomed .element e.key e.nested
          simp only [Bool.false_eq_true, ↓reduceIte, hnotes, e.patternReports_nested,
            Option.toList_some, List.map_cons, List.map_nil, List.sum_cons, List.sum_nil,
            Nat.add_zero, hdocument]
          rfl

theorem Request.sum_surplus (r : Request) :
    (r.entries.map Entry.surplus).sum = (r.query.elements.map ElemMatch.faultyInDocument).sum := by
  refine r.sum_entries_eq Entry.surplus fun e he => ?_
  cases e with
  | element e => cases he
  | _ => rfl

theorem Request.patternReports_draft (r : Request) :
    patternReports r.draft.diagnostics = (r.entries.map Entry.faultyPatterns).sum +
      (r.query.elements.map ElemMatch.faultyInDocument).sum := by
  rw [← r.sum_surplus, Request.draft_eq_run, patternReports_run]
  induction r.entries with
  | nil => rfl
  | cons e rest ih =>
      rw [List.flatMap_cons, List.flatMap_append, patternReports_append, ih,
        e.patternReports_history_eq]
      simp only [List.map_cons, List.sum_cons]
      omega

/-- **How often faulty patterns are reported.** A compilation reports every faulty pattern in the
value of a clause once, and the faulty patterns that are left in the documents for list elements once
more. So it reports each of them exactly once if and only if these documents have none. -/
theorem patternReports_compile (r : Request) :
    ∃ c, r.compile false = .ok c ∧ (∀ required c', r.compile required = .ok c' → c' = c) ∧
      patternReports c.diagnostics = (r.entries.map Entry.faultyPatterns).sum +
        (r.query.elements.map ElemMatch.faultyInDocument).sum ∧
      (patternReports c.diagnostics = (r.entries.map Entry.faultyPatterns).sum ↔
        ∀ e ∈ r.query.elements, e.faultyInDocument = 0) := by
  refine ⟨r.draft.compiled, r.compile_false, fun required c' => r.eq_of_compile_eq_ok,
    r.patternReports_draft, ?_⟩
  rw [show r.draft.compiled.diagnostics = r.draft.diagnostics from rfl, r.patternReports_draft,
    Nat.add_eq_left, List.sum_eq_zero_iff_forall_eq_nat]
  simp

end Library

/-- One faulty pattern inside an entry for list elements is reported twice. -/
theorem patternReports_element_unclosed_group :
    ((Request.ofEntries [.element ⟨"items", [⟨"sku", .string "("⟩]⟩]).entries.map
        Entry.faultyPatterns).sum = 1 ∧
      ∃ c, (Request.ofEntries [.element ⟨"items", [⟨"sku", .string "("⟩]⟩]).compile false = .ok c ∧
        patternReports c.diagnostics = 2 :=
  ⟨by decide +kernel, _, rfl, by decide +kernel⟩

end FilterQuery
