import FilterQuery.Proofs.Composition
import FilterQuery.Proofs.Grammar

/-!
# The output language

Which query documents a request without ranges can be compiled to. Under every key stands a written
value, a pattern for a part of a text, or a document for the elements of a list; a key is never blank.
That is all: for every such document there is a request.

Both directions rest on the same fact about histories. A clause of the result is the clause of some
entry, and if the clauses of the entries are those of a document, the result is that document.
-/

namespace FilterQuery

open Draft

/-- What may stand under a key of a query document. -/
inductive WrittenClause : QueryValue → Prop where
  | value (v : QueryValue) (hv : Written .field v) : WrittenClause v
  | containing (s : String) (hs : Text.isBlank s = false) :
      WrittenClause (.regex (.containing s))
  | elements (sub : QueryDocument)
      (hsub : ∀ e ∈ sub.entries, Text.isBlank e.1 = false ∧ Written .field e.2) :
      WrittenClause (.operator "$elemMatch" (.ofDocument sub))

/-- A document that a request without ranges may be compiled to. -/
def QueryDocument.IsWritten (doc : QueryDocument) : Prop :=
  ∀ e ∈ doc.entries, Text.isBlank e.1 = false ∧ WrittenClause e.2

theorem Text.isBlank_append (s t : String) : isBlank (s ++ t) = (isBlank s && isBlank t) := by
  rw [isBlank, String.toList_append, List.all_append]
  rfl

theorem isBlank_pathUnder {path : String} (key : String) (h : Text.isBlank path = false) :
    Text.isBlank (pathUnder path key) = false := by
  unfold pathUnder joinPath
  split
  · exact h
  · split
    · next hempty =>
        subst hempty
        cases h
    · rw [Text.isBlank_append, Text.isBlank_append, h, Bool.false_and, Bool.false_and]

theorem Match.isBlank_path {m : Match} (h : Text.isBlank m.key = false) :
    Text.isBlank m.path = false := by
  unfold path
  split
  · next key value hvalue => exact isBlank_pathUnder key h
  · exact h

theorem Match.written_of_clause {m : Match} {v : QueryValue} (h : m.clause.1 = some v) :
    Written .field v := by
  obtain ⟨key, value⟩ := m
  cases value with
  | pair k inner =>
      rw [clause_pair] at h
      simp only at h
      split at h
      · obtain ⟨q, hq, rfl⟩ := Option.map_eq_some_iff.1 h
        exact written_operator .field (RequestValue.written_of_meaning hq)
      · next hoperator =>
          rw [Place.under, if_neg hoperator] at h
          exact RequestValue.written_of_meaning h
  | _ =>
      rw [(clause_of_not_isPair id).2] at h
      exact RequestValue.written_of_meaning h

theorem RequestValue.written_of_element? {v : RequestValue} {q : QueryValue}
    (h : v.element? = some q) : Written .field q := by
  cases v with
  | string s => cases h; exact .pattern s
  | int n => cases h; exact .int .field n
  | float x => cases h; exact .float .field x
  | bool b => cases h; exact .bool .field b
  | _ => cases h

theorem Quantifier.under_operator (q : Quantifier) : Place.under q.operator = .operand := by
  cases q with
  | _ => rfl

/-- The parts of a value, the value itself among them, each with the key that it stands under. -/
inductive QueryValue.Part (whole : QueryValue) : Option String → QueryValue → Prop where
  | whole : Part whole none whole
  | item {above : Option String} {items : List QueryValue} {v : QueryValue}
      (h : Part whole above (.array items)) (hv : v ∈ items) : Part whole none v
  | entry {above : Option String} {entries : List (String × QueryValue)} {e : String × QueryValue}
      (h : Part whole above (.document entries)) (he : e ∈ entries) : Part whole (some e.1) e.2

/-- What a part of a written clause is: written in the place that its key makes, the clause itself,
or the document for the elements of a list. -/
inductive WrittenPart : Option String → QueryValue → Prop where
  | written {above : Option String} {place : Place} {v : QueryValue} (hv : Written place v)
      (hplace : place = .operand → ∃ key, above = some key ∧ isOperator key = true) :
      WrittenPart above v
  | clause {v : QueryValue} (hv : WrittenClause v) : WrittenPart none v
  | elements {entries : List (String × QueryValue)} (hentries : ∀ e ∈ entries, Written .field e.2) :
      WrittenPart (some "$elemMatch") (.document entries)

theorem WrittenPart.field {v : QueryValue} (above : Option String) (hv : Written .field v) :
    WrittenPart above v :=
  .written hv nofun

theorem WrittenPart.under {key : String} {v : QueryValue} (hv : Written (.under key) v) :
    WrittenPart (some key) v := by
  refine .written hv fun hplace => ⟨key, rfl, ?_⟩
  unfold Place.under at hplace
  split at hplace
  · next hoperator => exact hoperator
  · cases hplace

/-- The parts of a written clause are written as well, by induction from the whole inwards. -/
theorem WrittenPart.of_part {whole v : QueryValue} {above : Option String}
    (hwhole : WrittenClause whole) (h : QueryValue.Part whole above v) : WrittenPart above v := by
  induction h with
  | whole => exact .clause hwhole
  | item _ hv ih =>
      cases ih with
      | written hw _ =>
          cases hw with
          | list _ hitems => exact .field none (hitems _ hv)
      | clause hc =>
          cases hc with
          | value _ hw => cases hw
  | entry _ he ih =>
      cases ih with
      | written hw _ =>
          cases hw with
          | document _ _ _ hentries => exact .under (hentries _ he)
          | operation key value hvalue =>
              rw [List.mem_singleton.1 he]
              exact .under hvalue
      | clause hc =>
          cases hc with
          | value _ hw =>
              cases hw with
              | document _ _ _ hentries => exact .under (hentries _ he)
          | elements sub hsub =>
              rw [List.mem_singleton.1 he]
              exact .elements fun e he => (hsub e he).2
      | elements hentries => exact .field _ (hentries _ he)

theorem WrittenPart.ne_null {above : Option String} : ¬ WrittenPart above .null := by
  intro h
  cases h with
  | written hw _ => cases hw
  | clause hc => cases hc with | value _ hw => cases hw

theorem WrittenPart.isOperator_of_string {above : Option String} {s : String}
    (h : WrittenPart above (.string s)) : ∃ key, above = some key ∧ isOperator key = true := by
  cases h with
  | written hw hplace =>
      cases hw with
      | text => exact hplace rfl
  | clause hc => cases hc with | value _ hw => cases hw

theorem WrittenPart.eq_of_document_nil {above : Option String}
    (h : WrittenPart above (.document [])) : above = some "$elemMatch" := by
  cases h with
  | written hw _ =>
      cases hw with
      | document _ hne => exact absurd rfl hne
  | clause hc =>
      cases hc with
      | value _ hw =>
          cases hw with
          | document _ hne => exact absurd rfl hne
  | elements _ => rfl

variable [RegexLibrary]

namespace Entry

theorem written_of_clause?_equality {m : Match} {key : String} {v : QueryValue}
    (h : (Entry.equality m).clause? = some (key, v)) :
    Text.isBlank key = false ∧ Written .field v := by
  rw [clause?] at h
  cases hkey : Text.isBlank m.key with
  | true => rw [hkey] at h; cases h
  | false =>
      rw [hkey, if_neg Bool.false_ne_true] at h
      obtain ⟨value, hvalue, heq⟩ := Option.map_eq_some_iff.1 h
      cases heq
      exact ⟨m.isBlank_path hkey, m.written_of_clause hvalue⟩

end Entry

theorem ElemMatch.written_of_mem_nested {e : ElemMatch} {c : String × QueryValue}
    (h : c ∈ e.nested.clauses.entries) : Text.isBlank c.1 = false ∧ Written .field c.2 := by
  rw [e.nested_eq_run] at h
  obtain ⟨entry, hentry, hclause⟩ := Entry.exists_of_get?_run (KeyMap.get?_eq_some_iff.2 h)
  obtain ⟨m, -, rfl⟩ := List.mem_map.1 hentry
  exact Entry.written_of_clause?_equality hclause

theorem Entry.writtenClause_of_clause? {e : Entry} {key : String} {v : QueryValue}
    (hrange : ∀ r, e ≠ .range r) (h : e.clause? = some (key, v)) :
    Text.isBlank key = false ∧ WrittenClause v := by
  cases e with
  | equality m =>
      obtain ⟨hkey, hv⟩ := written_of_clause?_equality h
      exact ⟨hkey, .value v hv⟩
  | substring l =>
      rw [clause?] at h
      split at h
      · cases h
      · next hblank =>
          cases h
          rw [Bool.not_eq_true, Bool.or_eq_false_iff] at hblank
          exact ⟨hblank.1, .containing l.value hblank.2⟩
  | element e =>
      rw [clause?] at h
      split at h
      · cases h
      · next hblank =>
          cases h
          rw [Bool.not_eq_true] at hblank
          exact ⟨hblank, .elements e.nested.clauses fun c hc => ElemMatch.written_of_mem_nested hc⟩
  | range r => exact absurd rfl (hrange r)
  | membership q m =>
      rw [clause?] at h
      split at h
      · cases h
      · next hblank =>
          rw [Bool.not_eq_true] at hblank
          obtain ⟨values, -, heq⟩ := Option.map_eq_some_iff.1 h
          cases heq
          refine ⟨hblank, .value _ (written_operator .field ?_)⟩
          rw [q.under_operator]
          refine .list _ fun v hv => ?_
          obtain ⟨value, -, helement⟩ := List.mem_filterMap.1 hv
          exact RequestValue.written_of_element? helement

theorem Request.isWritten_draft {r : Request} (hranges : r.filter.ranges = []) :
    r.draft.clauses.IsWritten := by
  intro c hc
  rw [Request.draft_eq_run] at hc
  obtain ⟨e, he, hclause⟩ := Entry.exists_of_get?_run (KeyMap.get?_eq_some_iff.2 hc)
  refine Entry.writtenClause_of_clause? (fun range heq => ?_) hclause
  rw [Request.entries_eq, hranges, heq] at he
  simp at he

/-- Entries can be found for a document as soon as one can be found for each of its clauses. -/
theorem exists_entries_of_forall_mem {test : Entry → Prop} {clauses : List (String × QueryValue)}
    (h : ∀ c ∈ clauses, ∃ e, test e ∧ e.clause? = some c) :
    ∃ entries : List Entry, (∀ e ∈ entries, test e) ∧
      ∀ c, c ∈ clauses ↔ ∃ e ∈ entries, e.clause? = some c := by
  induction clauses with
  | nil => exact ⟨[], by simp, by simp⟩
  | cons c rest ih =>
      obtain ⟨e, htest, hclause⟩ := h c List.mem_cons_self
      obtain ⟨entries, hall, hmem⟩ := ih fun c' hc' => h c' (List.mem_cons_of_mem _ hc')
      refine ⟨e :: entries, ?_, fun c' => ?_⟩
      · intro e' he'
        rcases List.mem_cons.1 he' with rfl | he'
        · exact htest
        · exact hall e' he'
      · rw [List.mem_cons, hmem]
        simp [hclause, eq_comm]

theorem exists_match_of_written {key : String} {v : QueryValue} (hkey : Text.isBlank key = false)
    (hv : Written .field v) : ∃ m : Match, (Entry.equality m).clause? = some (key, v) := by
  obtain ⟨value, hmeaning, hpair⟩ := RequestValue.exists_meaning_eq hv
  obtain ⟨hpath, hclause⟩ := Match.clause_of_not_isPair (m := ⟨key, value⟩) (hpair rfl)
  refine ⟨⟨key, value⟩, ?_⟩
  rw [Entry.clause?, hkey, if_neg Bool.false_ne_true, hpath, hclause, hmeaning]
  rfl

theorem exists_entry_of_writtenClause {key : String} {v : QueryValue}
    (hkey : Text.isBlank key = false) (hv : WrittenClause v) :
    ∃ e : Entry, (∀ r, e ≠ .range r) ∧ e.clause? = some (key, v) := by
  cases hv with
  | value _ hv =>
      obtain ⟨m, hm⟩ := exists_match_of_written hkey hv
      exact ⟨.equality m, fun _ h => Entry.noConfusion h, hm⟩
  | containing s hs =>
      refine ⟨.substring ⟨key, s⟩, fun _ h => Entry.noConfusion h, ?_⟩
      rw [Entry.clause?, hkey, hs]
      rfl
  | elements sub hsub =>
      have hmatch : ∀ c ∈ sub.entries, ∃ e, (∃ m, e = Entry.equality m) ∧ e.clause? = some c := by
        intro c hc
        obtain ⟨m, hm⟩ := exists_match_of_written (hsub c hc).1 (hsub c hc).2
        exact ⟨.equality m, ⟨m, rfl⟩, hm⟩
      obtain ⟨entries, hall, hmem⟩ := exists_entries_of_forall_mem hmatch
      -- All of these entries are matches, so none is lost where only the matches are kept.
      have hentries : ∀ e, e ∈ (entries.filterMap Entry.equality?).map Entry.equality ↔
          e ∈ entries := by
        intro e
        constructor
        · intro he
          obtain ⟨m, hm, rfl⟩ := List.mem_map.1 he
          obtain ⟨e, he, heq⟩ := List.mem_filterMap.1 hm
          rwa [← Entry.equality?_eq_some_iff.1 heq]
        · intro he
          obtain ⟨m, rfl⟩ := hall e he
          exact List.mem_map_of_mem (List.mem_filterMap.2 ⟨_, he, rfl⟩)
      have hnested : (ElemMatch.mk key (entries.filterMap Entry.equality?)).nested.clauses = sub := by
        rw [ElemMatch.nested_eq_run]
        apply Entry.clauses_run_eq
        intro c
        rw [hmem]
        simp only [hentries]
      refine ⟨.element ⟨key, entries.filterMap Entry.equality?⟩, fun _ h => Entry.noConfusion h, ?_⟩
      rw [Entry.clause?, hkey, hnested]
      rfl

theorem exists_request_of_isWritten {doc : QueryDocument} (h : doc.IsWritten) :
    ∃ r : Request, r.filter.ranges = [] ∧ r.draft.clauses = doc := by
  obtain ⟨entries, hall, hmem⟩ :=
    exists_entries_of_forall_mem fun c hc => exists_entry_of_writtenClause (h c hc).1 (h c hc).2
  refine ⟨.ofEntries entries, ?_, ?_⟩
  · refine List.filterMap_eq_nil_iff.2 fun e he => ?_
    cases hrange : e.range? with
    | none => rfl
    | some r => exact absurd (Entry.range?_eq_some_iff.1 hrange) (hall e he r)
  · rw [Request.draft_eq_run]
    apply Entry.clauses_run_eq
    intro c
    rw [hmem]
    simp only [Request.mem_entries_ofEntries]

/-- **The output language.** The results for requests without ranges are the written documents, no
more and no fewer. Nowhere in them is there a null; a text stands only behind an operator, and an
empty document only where the conditions on the elements of a list stand. -/
theorem compile_language :
    (∀ r : Request, r.filter.ranges = [] →
      ∃ c, r.compile false = .ok c ∧ c.clauses.IsWritten) ∧
    (∀ doc : QueryDocument, doc.IsWritten →
      ∃ r : Request, r.filter.ranges = [] ∧ ∃ c, r.compile false = .ok c ∧ c.clauses = doc) ∧
    (∀ doc : QueryDocument, doc.IsWritten → ∀ clause ∈ doc.entries, ∀ above part,
      QueryValue.Part clause.2 above part →
        part ≠ .null ∧
        (∀ s, part = .string s → ∃ key, above = some key ∧ isOperator key = true) ∧
        (part = .document [] → above = some "$elemMatch")) := by
  refine ⟨fun r hranges => ?_, fun doc hdoc => ?_, fun doc hdoc clause hclause above part hpart => ?_⟩
  · exact ⟨r.draft.compiled, r.compile_false, Request.isWritten_draft hranges⟩
  · obtain ⟨r, hranges, hclauses⟩ := exists_request_of_isWritten hdoc
    exact ⟨r, hranges, r.draft.compiled, r.compile_false, hclauses⟩
  · have hwritten := WrittenPart.of_part (hdoc clause hclause).2 hpart
    refine ⟨?_, ?_, ?_⟩
    · rintro rfl
      exact hwritten.ne_null
    · rintro s rfl
      exact hwritten.isOperator_of_string
    · rintro rfl
      exact hwritten.eq_of_document_nil

end FilterQuery
