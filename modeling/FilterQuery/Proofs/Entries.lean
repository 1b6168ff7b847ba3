import FilterQuery.Compilation
import FilterQuery.Proofs.History
import FilterQuery.Proofs.Meaning

/-!
# What an entry does

Adding an entry to a draft is a history that does not look at the draft: some notes, which count the
entry and report what is wrong with it, and then at most one clause. `add_eq_run` says so for each of
the entries, the ones that run a coercion or a nested draft included. The draft of a request is
therefore the history of its entries, one after the other.
-/

namespace FilterQuery

open Draft

namespace Match

/-- The clause of a value that is no pair is its meaning, under the key of the match. -/
theorem clause_of_not_isPair {m : Match} (h : ¬ m.value.IsPair) :
    m.path = m.key ∧ m.clause = (m.value.meaning .field, m.value.omissions .field m.key) := by
  obtain ⟨key, value⟩ := m
  cases value with
  | pair k v => exact absurd trivial h
  | _ => exact ⟨rfl, RequestValue.coerce_eq .field key _ []⟩

theorem clause_pair (key k : String) (v : RequestValue) :
    (Match.mk key (.pair k v)).clause =
      (if isOperator k then (v.meaning (.under k)).map (.operator k) else v.meaning (.under k),
        v.omissions (.under k) (pathUnder key k)) := by
  unfold clause
  simp only [RequestValue.coerce_eq, List.nil_append]
  rfl

theorem isOmission_of_mem_clause (m : Match) : ∀ i ∈ m.clause.2, i.reason.isOmission = true := by
  obtain ⟨key, value⟩ := m
  cases value with
  | pair k v =>
      rw [clause_pair]
      exact v.isOmission_of_mem_omissions _ _
  | _ =>
      rw [(clause_of_not_isPair id).2]
      exact RequestValue.isOmission_of_mem_omissions _ _ _

end Match

section Library

variable [RegexLibrary]

/-- The draft of the matches alone, from which an entry for list elements takes its document. -/
def ElemMatch.nested (e : ElemMatch) : Draft := empty.addMatches e.value

namespace Entry

def category : Entry → Category
  | .equality _ => .equality
  | .substring _ => .substring
  | .element _ => .element
  | .range _ => .range
  | .membership q _ => q.category

def key : Entry → String
  | .equality m => m.key
  | .substring l => l.key
  | .element e => e.key
  | .range r => r.key
  | .membership _ m => m.key

def clause? : Entry → Option (String × QueryValue)
  | .equality m => if Text.isBlank m.key then none else m.clause.1.map fun v => (m.path, v)
  | .substring l =>
    if Text.isBlank l.key || Text.isBlank l.value then none
    else some (l.key, .regex (.containing l.value))
  | .element e =>
    if Text.isBlank e.key then none
    else some (e.key, .operator "$elemMatch" (.ofDocument e.nested.clauses))
  | .range r =>
    if Text.isBlank r.key then none
    else r.value.map fun bounds => (r.key, .ofDocument bounds.document)
  | .membership q m =>
    if Text.isBlank m.key then none
    else m.value.map fun values =>
      (m.key, .operator q.operator (.array (values.filterMap RequestValue.element?)))

/-- What an entry counts and reports before its clause is written. -/
def notes : Entry → List Action
  | .equality m =>
    if Text.isBlank m.key then [.report .equality m.key .blankKey]
    else
      .count :: (m.clause.2.map fun i => .report .equality i.path i.reason)
        ++ if m.clause.1.isNone then [.report .equality m.path m.value.fault] else []
  | .substring l =>
    if Text.isBlank l.key then [.report .substring l.key .blankKey]
    else if Text.isBlank l.value then [.report .substring l.key .blankPattern]
    else [.count]
  | .element e =>
    if Text.isBlank e.key then [.report .element e.key .blankKey]
    else [.count, .absorb .element e.key e.nested]
  | .range r =>
    if Text.isBlank r.key then [.report .range r.key .blankKey]
    else
      match r.value with
      | none => [.report .range r.key .missingValue]
      | some bounds =>
        .count :: if bounds.document.isEmpty then [.report .range r.key .emptyRange] else []
  | .membership q m =>
    if Text.isBlank m.key then [.report q.category m.key .blankKey]
    else
      match m.value with
      | none => [.report q.category m.key .missingValue]
      | some values =>
        .count :: (droppedPositions 0 values).map fun index =>
          .report q.category m.key (.droppedElement index)

def history (e : Entry) : List Action :=
  e.notes ++ e.clause?.toList.map fun c => .write e.category c.1 c.2

/-- What an entry may report before its clause is written, and under which name. -/
inductive MayReport : Entry → String → Reason → Prop
  | blankKey (e : Entry) : MayReport e e.key .blankKey
  | blankPattern (l : Like) : MayReport (.substring l) l.key .blankPattern
  | omission {m : Match} {i : Issue} (hkey : Text.isBlank m.key = false) (hi : i ∈ m.clause.2) :
      MayReport (.equality m) i.path i.reason
  | fault {m : Match} (hkey : Text.isBlank m.key = false) (hnone : m.clause.1 = none) :
      MayReport (.equality m) m.path m.value.fault
  | missingBounds (r : Range) : MayReport (.range r) r.key .missingValue
  | emptyRange (r : Range) : MayReport (.range r) r.key .emptyRange
  | missingValues (q : Quantifier) (m : Membership) : MayReport (.membership q m) m.key .missingValue
  | dropped (q : Quantifier) (m : Membership) (index : Nat) :
      MayReport (.membership q m) m.key (.droppedElement index)

theorem cases_of_mem_notes {e : Entry} {action : Action} (h : action ∈ e.notes) :
    action = .count ∨
      (∃ path reason, action = .report e.category path reason ∧ e.MayReport path reason) ∨
        ∃ m, e = .element m ∧ action = .absorb .element m.key m.nested := by
  cases e with
  | equality m =>
      rw [notes] at h
      cases hkey : Text.isBlank m.key with
      | true =>
          rw [hkey, if_pos rfl] at h
          exact .inr (.inl ⟨_, _, List.mem_singleton.1 h, .blankKey (.equality m)⟩)
      | false =>
          rw [hkey, if_neg Bool.false_ne_true, List.mem_append, List.mem_cons] at h
          rcases h with (hcount | hissue) | hfault
          · exact .inl hcount
          · obtain ⟨i, hi, rfl⟩ := List.mem_map.1 hissue
            exact .inr (.inl ⟨_, _, rfl, .omission hkey hi⟩)
          · split at hfault
            · next hnone =>
                rw [Option.isNone_iff_eq_none] at hnone
                exact .inr (.inl ⟨_, _, List.mem_singleton.1 hfault, .fault hkey hnone⟩)
            · cases hfault
  | substring l =>
      rw [notes] at h
      split at h
      · exact .inr (.inl ⟨_, _, List.mem_singleton.1 h, .blankKey (.substring l)⟩)
      · split at h
        · exact .inr (.inl ⟨_, _, List.mem_singleton.1 h, .blankPattern l⟩)
        · exact .inl (List.mem_singleton.1 h)
  | element m =>
      rw [notes] at h
      split at h
      · exact .inr (.inl ⟨_, _, List.mem_singleton.1 h, .blankKey (.element m)⟩)
      · rcases List.mem_cons.1 h with hcount | habsorb
        · exact .inl hcount
        · exact .inr (.inr ⟨m, rfl, List.mem_singleton.1 habsorb⟩)
  | range r =>
      rw [notes] at h
      split at h
      · exact .inr (.inl ⟨_, _, List.mem_singleton.1 h, .blankKey (.range r)⟩)
      · cases hvalue : r.value with
        | none =>
            rw [hvalue] at h
            exact .inr (.inl ⟨_, _, List.mem_singleton.1 h, .missingBounds r⟩)
        | some bounds =>
            rw [hvalue] at h
            rcases List.mem_cons.1 h with hcount | hempty
            · exact .inl hcount
            · split at hempty
              · exact .inr (.inl ⟨_, _, List.mem_singleton.1 hempty, .emptyRange r⟩)
              · cases hempty
  | membership q m =>
      rw [notes] at h
      split at h
      · exact .inr (.inl ⟨_, _, List.mem_singleton.1 h, .blankKey (.membership q m)⟩)
      · cases hvalue : m.value with
        | none =>
            rw [hvalue] at h
            exact .inr (.inl ⟨_, _, List.mem_singleton.1 h, .missingValues q m⟩)
        | some values =>
            rw [hvalue] at h
            rcases List.mem_cons.1 h with hcount | hdropped
            · exact .inl hcount
            · obtain ⟨index, -, rfl⟩ := List.mem_map.1 hdropped
              exact .inr (.inl ⟨_, _, rfl, .dropped q m index⟩)

end Entry

namespace Draft

variable (draft : Draft)

theorem foldl_report_eq_run {α : Type} (category : α → Category) (key : α → String)
    (reason : α → Reason) (items : List α) :
    items.foldl (fun draft i => draft.report (category i) (key i) (reason i)) draft =
      draft.run (items.map fun i => .report (category i) (key i) (reason i)) := by
  rw [run, List.foldl_map]
  rfl

theorem addMatch_eq_run (m : Match) : draft.addMatch m = draft.run (Entry.equality m).history := by
  simp only [addMatch, Entry.history, Entry.notes, Entry.clause?]
  cases Text.isBlank m.key with
  | true => rfl
  | false =>
      simp only [Bool.false_eq_true, ↓reduceIte]
      rw [foldl_report_eq_run]
      cases m.clause.1 with
      | some v => simp [run_append, perform, Entry.category]
      | none => simp [run_append, perform]

theorem addLike_eq_run (l : Like) : draft.addLike l = draft.run (Entry.substring l).history := by
  simp only [addLike, Entry.history, Entry.notes, Entry.clause?]
  cases Text.isBlank l.key with
  | true => rfl
  | false =>
      cases Text.isBlank l.value with
      | true => rfl
      | false => rfl

theorem addElemMatch_eq_run (e : ElemMatch) :
    draft.addElemMatch e = draft.run (Entry.element e).history := by
  simp only [addElemMatch, Entry.history, Entry.notes, Entry.clause?]
  cases Text.isBlank e.key with
  | true => rfl
  | false => rfl

theorem addRange_eq_run (r : Range) : draft.addRange r = draft.run (Entry.range r).history := by
  simp only [addRange, Entry.history, Entry.notes, Entry.clause?]
  cases Text.isBlank r.key with
  | true => rfl
  | false =>
      cases r.value with
      | none => rfl
      | some bounds =>
          simp only [Bool.false_eq_true, ↓reduceIte, Option.map_some]
          cases bounds.document.isEmpty with
          | true => rfl
          | false => rfl

theorem addMembership_eq_run (q : Quantifier) (m : Membership) :
    draft.addMembership q m = draft.run (Entry.membership q m).history := by
  simp only [addMembership, Entry.history, Entry.notes, Entry.clause?]
  cases Text.isBlank m.key with
  | true => rfl
  | false =>
      cases m.value with
      | none => rfl
      | some values =>
          simp only [Bool.false_eq_true, ↓reduceIte, reportAll]
          rw [foldl_report_eq_run, List.map_map]
          simp [run_append, perform, Entry.category, Function.comp_def]

theorem add_eq_run (e : Entry) : draft.add e = draft.run e.history := by
  cases e with
  | equality m => exact draft.addMatch_eq_run m
  | substring l => exact draft.addLike_eq_run l
  | element e => exact draft.addElemMatch_eq_run e
  | range r => exact draft.addRange_eq_run r
  | membership q m => exact draft.addMembership_eq_run q m

theorem foldl_add_eq_run (entries : List Entry) :
    entries.foldl add draft = draft.run (entries.flatMap Entry.history) := by
  induction entries generalizing draft with
  | nil => rfl
  | cons e rest ih => rw [List.foldl_cons, ih, add_eq_run, List.flatMap_cons, run_append]

theorem addMatches_eq_run (ms : List Match) :
    draft.addMatches ms = draft.run ((ms.map Entry.equality).flatMap Entry.history) := by
  rw [← foldl_add_eq_run, List.foldl_map]
  rfl

end Draft

theorem ElemMatch.nested_eq_run (e : ElemMatch) :
    e.nested = empty.run ((e.value.map Entry.equality).flatMap Entry.history) :=
  addMatches_eq_run empty e.value

theorem Request.draft_eq_run (r : Request) : r.draft = empty.run (r.entries.flatMap Entry.history) :=
  foldl_add_eq_run empty r.entries

theorem Entry.written?_eq_none_of_mem_notes (e : Entry) (key : String) :
    ∀ action ∈ e.notes, action.written? key = none := by
  intro action haction
  rcases cases_of_mem_notes haction with rfl | ⟨path, reason, rfl, -⟩ | ⟨m, -, rfl⟩
  · rfl
  · rfl
  · rfl

/-- What an entry writes last under a key is its clause. -/
theorem Entry.lastWritten?_history_eq_some_iff (e : Entry) (key : String) (value : QueryValue) :
    lastWritten? key e.history = some value ↔ e.clause? = some (key, value) := by
  have hnotes : lastWritten? key e.notes = none := by
    refine List.findSome?_eq_none_iff.2 fun action haction => ?_
    exact e.written?_eq_none_of_mem_notes key action (List.mem_reverse.1 haction)
  rw [history, lastWritten?_append, hnotes, Option.or_none]
  cases hclause : e.clause? with
  | none => simp [lastWritten?]
  | some c =>
      obtain ⟨k, v⟩ := c
      by_cases hk : key = k
      · simp [lastWritten?, Action.written?, hk]
      · simp [lastWritten?, Action.written?, hk, Ne.symm hk]

section Histories

variable {entries : List Entry}

theorem Entry.exists_of_get?_run {key : String} {value : QueryValue}
    (h : (empty.run (entries.flatMap Entry.history)).clauses.get? key = some value) :
    ∃ e ∈ entries, e.clause? = some (key, value) := by
  rw [get?_clauses_run_empty, lastWritten?_flatMap] at h
  obtain ⟨e, he, hlast⟩ := List.exists_of_findSome?_eq_some h
  exact ⟨e, List.mem_reverse.1 he, (e.lastWritten?_history_eq_some_iff key value).1 hlast⟩

theorem Entry.get?_run_ne_none {e : Entry} {key : String} {value : QueryValue} (he : e ∈ entries)
    (hclause : e.clause? = some (key, value)) :
    (empty.run (entries.flatMap Entry.history)).clauses.get? key ≠ none := by
  rw [get?_clauses_run_empty, lastWritten?_flatMap]
  intro hnone
  have hlast := List.findSome?_eq_none_iff.1 hnone e (List.mem_reverse.2 he)
  rw [(e.lastWritten?_history_eq_some_iff key value).2 hclause] at hlast
  cases hlast

/-- Entries whose clauses are those of a document are compiled to it. No two of these clauses differ
under one key, so it does not matter which entry comes last. -/
theorem Entry.clauses_run_eq {doc : QueryDocument}
    (h : ∀ c, c ∈ doc.entries ↔ ∃ e ∈ entries, e.clause? = some c) :
    (empty.run (entries.flatMap Entry.history)).clauses = doc := by
  have hsome : ∀ key value,
      (empty.run (entries.flatMap Entry.history)).clauses.get? key = some value →
        doc.get? key = some value := fun key value hget =>
    KeyMap.get?_eq_some_iff.2 ((h (key, value)).2 (Entry.exists_of_get?_run hget))
  apply KeyMap.eq_of_get?_eq
  intro key
  cases hget : (empty.run (entries.flatMap Entry.history)).clauses.get? key with
  | some value => exact (hsome key value hget).symm
  | none =>
      cases hdoc : doc.get? key with
      | none => rfl
      | some value =>
          obtain ⟨e, he, hclause⟩ := (h (key, value)).1 (KeyMap.get?_eq_some_iff.1 hdoc)
          exact absurd hget (Entry.get?_run_ne_none he hclause)

end Histories

end Library

namespace Entry

def equality? : Entry → Option Match
  | .equality m => some m
  | _ => none

def substring? : Entry → Option Like
  | .substring l => some l
  | _ => none

def element? : Entry → Option ElemMatch
  | .element e => some e
  | _ => none

def range? : Entry → Option Range
  | .range r => some r
  | _ => none

def membership? (q : Quantifier) : Entry → Option Membership
  | .membership q' m => if q' = q then some m else none
  | _ => none

@[simp] theorem equality?_eq_some_iff {e : Entry} {m : Match} :
    e.equality? = some m ↔ e = .equality m := by
  cases e with
  | _ => simp [equality?]

@[simp] theorem substring?_eq_some_iff {e : Entry} {l : Like} :
    e.substring? = some l ↔ e = .substring l := by
  cases e with
  | _ => simp [substring?]

@[simp] theorem element?_eq_some_iff {e : Entry} {m : ElemMatch} :
    e.element? = some m ↔ e = .element m := by
  cases e with
  | _ => simp [element?]

@[simp] theorem range?_eq_some_iff {e : Entry} {r : Range} :
    e.range? = some r ↔ e = .range r := by
  cases e with
  | _ => simp [range?]

@[simp] theorem membership?_eq_some_iff {q : Quantifier} {e : Entry} {m : Membership} :
    e.membership? q = some m ↔ e = .membership q m := by
  cases e with
  | _ => simp [membership?]

end Entry

namespace Request

/-- The request that holds each of the entries in the entry's own list, and nothing else. -/
def ofEntries (entries : List Entry) : Request where
  query :=
    { equalities := entries.filterMap Entry.equality?
      substrings := entries.filterMap Entry.substring?
      elements := entries.filterMap Entry.element? }
  filter :=
    { ranges := entries.filterMap Entry.range?
      anyOf := entries.filterMap (Entry.membership? .anyOf)
      noneOf := entries.filterMap (Entry.membership? .noneOf)
      allOf := entries.filterMap (Entry.membership? .allOf) }

/-- All seven lists in the order in which they are compiled. -/
theorem entries_eq (r : Request) :
    r.entries = r.query.equalities.map .equality ++ r.query.substrings.map .substring
      ++ r.query.elements.map .element ++ r.filter.ranges.map .range
      ++ r.filter.anyOf.map (.membership .anyOf) ++ r.filter.noneOf.map (.membership .noneOf)
      ++ r.filter.allOf.map (.membership .allOf) := by
  simp [entries, Category.order, entriesOf]

/-- A quantity that only entries for list elements have is summed over these alone. -/
theorem sum_entries_eq (r : Request) (quantity : Entry → Nat)
    (h : ∀ e : Entry, e.element? = none → quantity e = 0) :
    (r.entries.map quantity).sum = (r.query.elements.map fun e => quantity (.element e)).sum := by
  have hzero : ∀ {α : Type} (items : List α) (entry : α → Entry),
      (∀ i, (entry i).element? = none) → ((items.map entry).map quantity).sum = 0 := by
    intro α items entry hentry
    rw [List.sum_eq_zero_iff_forall_eq_nat, List.map_map]
    intro n hn
    obtain ⟨i, -, rfl⟩ := List.mem_map.1 hn
    exact h _ (hentry i)
  rw [entries_eq]
  simp only [List.map_append, List.sum_append]
  rw [hzero r.query.equalities _ fun _ => rfl, hzero r.query.substrings _ fun _ => rfl,
    hzero r.filter.ranges _ fun _ => rfl, hzero r.filter.anyOf _ fun _ => rfl,
    hzero r.filter.noneOf _ fun _ => rfl, hzero r.filter.allOf _ fun _ => rfl]
  simp [Function.comp_def]

theorem entries_ofEntries_singleton (e : Entry) : (ofEntries [e]).entries = [e] := by
  cases e with
  | membership q m =>
      cases q with
      | _ => rfl
  | _ => rfl

theorem mem_entries_ofEntries {e : Entry} {entries : List Entry} :
    e ∈ (ofEntries entries).entries ↔ e ∈ entries := by
  rw [entries_eq]
  cases e with
  | membership q m =>
      cases q with
      | _ => simp [ofEntries]
  | _ => simp [ofEntries]

end Request

end FilterQuery
