import FilterQuery.Proofs.Accounting

/-!
# Where diagnostics come from

A diagnostic has the category of an entry and a key that is the entry's own or lies below it. Keys are
put together in several places: by the match, by the coercion inside a value, and once more where the
diagnostics of a nested draft are taken over. Each of them only ever adds to the right of a dot, so
being below a key (`IsUnder`) goes through all of them.

The entries are run category by category, and an entry adds to the end. So the diagnostics come in the
order of the categories, and the category that a loss names, which is the last one that wrote the key,
is never a later one than that of the entry.
-/

namespace FilterQuery

open Draft

def IsUnder (key name : String) : Prop := name = key ∨ ∃ below, name = key ++ "." ++ below

theorem IsUnder.refl (key : String) : IsUnder key key := .inl rfl

theorem IsUnder.trans {key middle name : String} (h : IsUnder key middle) (h' : IsUnder middle name) :
    IsUnder key name := by
  rcases h with rfl | ⟨above, rfl⟩
  · exact h'
  · rcases h' with rfl | ⟨below, rfl⟩
    · exact .inr ⟨above, rfl⟩
    · refine .inr ⟨above ++ "." ++ below, ?_⟩
      simp only [String.append_assoc]

theorem isUnder_pathUnder {path : String} (key : String) (h : path ≠ "") :
    IsUnder path (pathUnder path key) := by
  unfold pathUnder joinPath
  split
  · exact .refl path
  · exact .inr ⟨key, rfl⟩

theorem pathUnder_ne_empty {path : String} (key : String) (h : path ≠ "") :
    pathUnder path key ≠ "" := by
  rcases isUnder_pathUnder key h with heq | ⟨below, heq⟩
  · rw [heq]
    exact h
  · rw [heq]
    intro hempty
    rw [String.append_eq_empty_iff, String.append_eq_empty_iff] at hempty
    exact h hempty.1.1

theorem isUnder_nestedKey (outer inner : String) : IsUnder outer (nestedKey outer inner) := by
  unfold nestedKey
  split
  · exact .refl outer
  · exact .inr ⟨inner, rfl⟩

theorem Text.ne_empty_of_isBlank_eq_false {key : String} (h : isBlank key = false) : key ≠ "" := by
  rintro rfl
  cases h

theorem RequestValue.isUnder_of_mem_omissions (place : Place) {path : String} (hpath : path ≠ "")
    (v : RequestValue) : ∀ i ∈ v.omissions place path, IsUnder path i.path := by
  have hrule : OmissionRule fun path i => path ≠ "" → IsUnder path i.path :=
    { inside := fun path key i hinside hpath =>
        (isUnder_pathUnder key hpath).trans (hinside (pathUnder_ne_empty key hpath))
      fault := fun path key value => isUnder_pathUnder key
      dropped := fun path index _ => .refl path }
  exact fun i hi => forall_mem_omissions hrule place path v i hi hpath

theorem Match.isUnder_path {m : Match} (hkey : m.key ≠ "") : IsUnder m.key m.path := by
  unfold path
  split
  · next key value hvalue => exact isUnder_pathUnder key hkey
  · exact .refl m.key

theorem Match.isUnder_of_mem_clause {m : Match} (hkey : m.key ≠ "") :
    ∀ i ∈ m.clause.2, IsUnder m.key i.path := by
  obtain ⟨key, value⟩ := m
  cases value with
  | pair k v =>
      rw [clause_pair]
      intro i hi
      have hinside := v.isUnder_of_mem_omissions (.under k) (pathUnder_ne_empty k hkey) i hi
      exact (isUnder_pathUnder k hkey).trans hinside
  | _ =>
      rw [(clause_of_not_isPair id).2]
      exact RequestValue.isUnder_of_mem_omissions .field hkey _

/-- The reasons that the clauses of a category can report. -/
def Category.canReport (category : Category) : Reason → Bool
  | .blankKey | .overwritten _ => true
  | .blankPattern => category = .substring
  | .missingValue => category ∈ [.range, .anyOf, .noneOf, .allOf]
  | .unsupportedValue | .emptyOperand _ => category ∈ [.equality, .element]
  | .droppedElement _ => category ∈ [.equality, .element, .anyOf, .noneOf, .allOf]
  | .emptyRange => category = .range
  | .invalidPattern _ => category ≠ .range

/-- The place of a category in the order of compilation. -/
def Category.rank (category : Category) : Nat := order.idxOf category

/-- A diagnostic that the entry may have left. -/
structure Diagnostic.IsOf (d : Diagnostic) (e : Entry) : Prop where
  category_eq : d.category = e.category
  isUnder : IsUnder e.key d.key
  canReport : e.category.canReport d.reason = true
  rank_le : ∀ previous, d.reason = .overwritten previous → previous.rank ≤ e.category.rank

theorem Category.canReport_of_isOmission {reason : Reason} (h : reason.isOmission = true) :
    equality.canReport reason = true := by
  cases reason with
  | unsupportedValue => rfl
  | emptyOperand operator => rfl
  | droppedElement index => rfl
  | _ => cases h

/-- An entry for list elements takes over what its matches report. -/
theorem Category.canReport_element {reason : Reason} (h : equality.canReport reason = true) :
    element.canReport reason = true := by
  cases reason with
  | blankPattern => cases h
  | missingValue => cases h
  | emptyRange => cases h
  | _ => rfl

/-- Diagnostics besides the losses of clauses. -/
theorem Diagnostic.isOf_of_ne_overwritten {d : Diagnostic} {e : Entry}
    (hcategory : d.category = e.category) (hkey : IsUnder e.key d.key)
    (hreason : e.category.canReport d.reason = true) (hkept : d.isOverwritten = false) :
    d.IsOf e := by
  refine ⟨hcategory, hkey, hreason, fun previous hprevious => ?_⟩
  rw [isOverwritten, hprevious] at hkept
  cases hkept

namespace Draft

/-- No category later than the given one has written a clause. -/
def UpTo (draft : Draft) (category : Category) : Prop :=
  ∀ key writer, draft.origins.get? key = some writer → writer.rank ≤ category.rank

theorem UpTo.mono {draft : Draft} {category later : Category} (h : draft.UpTo category)
    (hle : category.rank ≤ later.rank) : draft.UpTo later :=
  fun key writer hwriter => Nat.le_trans (h key writer hwriter) hle

theorem upTo_empty (category : Category) : empty.UpTo category := by
  intro key writer hwriter
  cases hwriter

end Draft

theorem Entry.MayReport.isOf {e : Entry} {path : String} {reason : Reason}
    (h : e.MayReport path reason) :
    (Diagnostic.mk e.category path reason).IsOf e := by
  have homission : ∀ (m : Match) path {reason : Reason}, IsUnder m.key path →
      reason.isOmission = true → (Diagnostic.mk .equality path reason).IsOf (.equality m) := by
    intro m path reason hpath hreason
    refine Diagnostic.isOf_of_ne_overwritten rfl hpath
      (Category.canReport_of_isOmission hreason) ?_
    cases reason with
    | overwritten previous => cases hreason
    | _ => rfl
  cases h with
  | blankKey => exact Diagnostic.isOf_of_ne_overwritten rfl (.refl _) rfl rfl
  | blankPattern l => exact Diagnostic.isOf_of_ne_overwritten rfl (.refl _) rfl rfl
  | omission hkey hi =>
      have hne := Text.ne_empty_of_isBlank_eq_false hkey
      exact homission _ _ (Match.isUnder_of_mem_clause hne _ hi) (Match.isOmission_of_mem_clause _ _ hi)
  | fault hkey hnone =>
      have hne := Text.ne_empty_of_isBlank_eq_false hkey
      exact homission _ _ (Match.isUnder_path hne) (RequestValue.isOmission_fault _)
  | missingBounds r => exact Diagnostic.isOf_of_ne_overwritten rfl (.refl _) rfl rfl
  | emptyRange r => exact Diagnostic.isOf_of_ne_overwritten rfl (.refl _) rfl rfl
  | missingValues q m =>
      refine Diagnostic.isOf_of_ne_overwritten rfl (.refl _) ?_ rfl
      cases q with
      | _ => rfl
  | dropped q m index =>
      refine Diagnostic.isOf_of_ne_overwritten rfl (.refl _) ?_ rfl
      cases q with
      | _ => rfl

namespace Request

variable (r : Request)

theorem category_of_mem_entriesOf {category : Category} {e : Entry}
    (h : e ∈ r.entriesOf category) : e.category = category := by
  cases category with
  | _ =>
      obtain ⟨item, -, rfl⟩ := List.mem_map.1 h
      rfl

theorem mem_entries_of_mem_entriesOf {category : Category} {e : Entry}
    (h : e ∈ r.entriesOf category) : e ∈ r.entries := by
  refine List.mem_flatMap.2 ⟨category, ?_, h⟩
  cases category with
  | _ => decide

end Request

variable [RegexLibrary]

namespace Draft

section

variable {category : Category} {P : Diagnostic → Prop}

/-- What an action adds has a property, if all that it says anywhere has it and, for a write, the loss
of every clause that it may meet. -/
theorem exists_added_perform {draft : Draft} {action : Action} (hdraft : draft.UpTo category)
    (hsaid : ∀ d ∈ action.diagnostics, P d)
    (hwrite : ∀ writer key value, action = .write writer key value → writer = category ∧
      ∀ previous, previous.rank ≤ category.rank → P ⟨category, key, .overwritten previous⟩) :
    (draft.perform action).UpTo category ∧ ∃ added, (∀ d ∈ added, P d) ∧
      (draft.perform action).diagnostics = draft.diagnostics ++ added := by
  cases action with
  | count => exact ⟨hdraft, _, hsaid, (List.append_nil _).symm⟩
  | report writer key reason => exact ⟨hdraft, _, hsaid, rfl⟩
  | absorb writer key nested => exact ⟨hdraft, _, hsaid, rfl⟩
  | write writer key value =>
      obtain ⟨rfl, hloss⟩ := hwrite _ _ _ rfl
      rw [perform, write_eq]
      constructor
      · intro k previous hprevious
        simp only [KeyMap.get?_insert] at hprevious
        split at hprevious
        · cases hprevious
          exact Nat.le_refl _
        · exact hdraft k previous hprevious
      · refine ⟨faultReports writer key value ++ draft.lossReports writer key, ?_,
          List.append_assoc ..⟩
        rw [List.forall_mem_append]
        refine ⟨hsaid, fun d hd => ?_⟩
        unfold lossReports at hd
        split at hd
        · rw [List.mem_singleton.1 hd]
          apply hloss
          cases horigin : draft.origins.get? key with
          | none => exact Nat.le_refl _
          | some previous => exact hdraft key previous horigin
        · exact absurd hd List.not_mem_nil

theorem exists_added_run {draft : Draft} {actions : List Action} (hdraft : draft.UpTo category)
    (hsaid : ∀ action ∈ actions, ∀ d ∈ action.diagnostics, P d)
    (hwrite : ∀ writer key value, .write writer key value ∈ actions → writer = category ∧
      ∀ previous, previous.rank ≤ category.rank → P ⟨category, key, .overwritten previous⟩) :
    (draft.run actions).UpTo category ∧ ∃ added, (∀ d ∈ added, P d) ∧
      (draft.run actions).diagnostics = draft.diagnostics ++ added := by
  induction actions generalizing draft with
  | nil => exact ⟨hdraft, [], fun d hd => absurd hd List.not_mem_nil, (List.append_nil _).symm⟩
  | cons action rest ih =>
      rw [List.forall_mem_cons] at hsaid
      obtain ⟨hnext, first, hfirst, hdiagnostics⟩ := exists_added_perform hdraft hsaid.1
        fun writer key value heq => hwrite writer key value (heq ▸ List.mem_cons_self)
      obtain ⟨hlast, later, hlater, hrest⟩ := ih hnext hsaid.2
        fun writer key value hmem => hwrite writer key value (List.mem_cons_of_mem _ hmem)
      refine ⟨hlast, first ++ later, List.forall_mem_append.2 ⟨hfirst, hlater⟩, ?_⟩
      rw [run_cons, hrest, hdiagnostics, List.append_assoc]

end

end Draft

namespace Entry

theorem eq_of_write_mem_history {e : Entry} {writer : Category} {key : String} {value : QueryValue}
    (h : .write writer key value ∈ e.history) :
    writer = e.category ∧ e.clause? = some (key, value) := by
  rcases List.mem_append.1 h with hnote | hwrite
  · have hnone := e.written?_eq_none_of_mem_notes key _ hnote
    simp [Action.written?] at hnone
  · obtain ⟨c, hc, heq⟩ := List.mem_map.1 hwrite
    cases heq
    exact ⟨rfl, Option.mem_toList.1 hc⟩

theorem isUnder_of_clause? {e : Entry} {key : String} {value : QueryValue}
    (h : e.clause? = some (key, value)) : IsUnder e.key key := by
  have hcounts : e.isSkipped = false := by
    rw [Bool.eq_false_iff]
    intro hskipped
    rw [clause?_of_isSkipped hskipped] at h
    cases h
  cases e with
  | equality m =>
      have hkey : Text.isBlank m.key = false := hcounts
      rw [clause?, hkey, if_neg Bool.false_ne_true] at h
      obtain ⟨v, -, heq⟩ := Option.map_eq_some_iff.1 h
      cases heq
      exact m.isUnder_path (Text.ne_empty_of_isBlank_eq_false hkey)
  | substring l =>
      have hwritten : (Text.isBlank l.key || Text.isBlank l.value) = false := hcounts
      rw [clause?, hwritten, if_neg Bool.false_ne_true] at h
      cases h
      exact .refl l.key
  | element m =>
      rw [ElemMatch.clause?_eq hcounts] at h
      cases h
      exact .refl m.key
  | range r =>
      obtain ⟨hkey, -⟩ := Bool.or_eq_false_iff.1 hcounts
      rw [clause?, hkey, if_neg Bool.false_ne_true] at h
      obtain ⟨bounds, -, heq⟩ := Option.map_eq_some_iff.1 h
      cases heq
      exact .refl r.key
  | membership q m =>
      obtain ⟨hkey, -⟩ := Bool.or_eq_false_iff.1 hcounts
      rw [clause?, hkey, if_neg Bool.false_ne_true] at h
      obtain ⟨values, -, heq⟩ := Option.map_eq_some_iff.1 h
      cases heq
      exact .refl m.key

/-- What entries of a category add, if each says nothing but what it may. -/
theorem exists_added_run {category : Category} {entries : List Entry} {draft : Draft}
    (hdraft : draft.UpTo category) (hcategory : ∀ e ∈ entries, e.category = category)
    (hsaid : ∀ e ∈ entries, ∀ d ∈ e.said, d.IsOf e) :
    (draft.run (entries.flatMap Entry.history)).UpTo category ∧
      ∃ added, (∀ d ∈ added, ∃ e ∈ entries, d.IsOf e) ∧
        (draft.run (entries.flatMap Entry.history)).diagnostics = draft.diagnostics ++ added := by
  apply Draft.exists_added_run hdraft
  · intro action haction d hd
    obtain ⟨e, he, haction⟩ := List.mem_flatMap.1 haction
    exact ⟨e, he, hsaid e he d (List.mem_flatMap.2 ⟨action, haction, hd⟩)⟩
  · intro writer key value hmem
    obtain ⟨e, he, hmem⟩ := List.mem_flatMap.1 hmem
    obtain ⟨hwriter, hclause⟩ := eq_of_write_mem_history hmem
    refine ⟨hwriter.trans (hcategory e he), fun previous hprevious => ⟨e, he, ?_⟩⟩
    rw [← hcategory e he] at hprevious ⊢
    refine ⟨rfl, isUnder_of_clause? hclause, rfl, fun p hp => ?_⟩
    cases hp
    exact hprevious

theorem isOf_of_mem_notes {e : Entry}
    (hnested : ∀ m, e = .element m → ∀ d ∈ m.nested.rehomed .element m.key, d.IsOf e) :
    ∀ action ∈ e.notes, ∀ d ∈ action.diagnostics, d.IsOf e := by
  intro action haction d hd
  rcases cases_of_mem_notes haction with rfl | ⟨path, reason, rfl, hreport⟩ | ⟨m, he, rfl⟩
  · cases hd
  · rw [List.mem_singleton.1 hd]
    exact hreport.isOf
  · exact hnested m he d hd

/-- What an entry says is in its notes or a fault of its clause, and the clause of a range has none. -/
theorem isOf_of_mem_said_of_nested {e : Entry}
    (hnested : ∀ m, e = .element m → ∀ d ∈ m.nested.rehomed .element m.key, d.IsOf e) :
    ∀ d ∈ e.said, d.IsOf e := by
  intro d hd
  obtain ⟨action, haction, hd⟩ := List.mem_flatMap.1 hd
  rcases List.mem_append.1 haction with hnote | hwrite
  · exact isOf_of_mem_notes hnested action hnote d hd
  · obtain ⟨⟨key, value⟩, hc, rfl⟩ := List.mem_map.1 hwrite
    have hclause : e.clause? = some (key, value) := Option.mem_toList.1 hc
    obtain ⟨message, hmessage, rfl⟩ := List.mem_map.1 hd
    refine Diagnostic.isOf_of_ne_overwritten rfl (isUnder_of_clause? hclause) ?_ rfl
    cases e with
    | range r =>
        have hnone : value.patterns = [] := by
          rw [clause?] at hclause
          split at hclause
          · cases hclause
          · obtain ⟨bounds, -, heq⟩ := Option.map_eq_some_iff.1 hclause
            cases heq
            exact bounds.patterns_document
        rw [QueryValue.patternFaults, hnone] at hmessage
        cases hmessage
    | membership q m =>
        cases q with
        | _ => rfl
    | _ => rfl

theorem exists_isOf_of_mem_nested (e : ElemMatch) :
    ∀ d ∈ e.nested.diagnostics, ∃ m, d.IsOf (equality m) := by
  have hcategory : ∀ entry ∈ e.value.map equality, entry.category = .equality := by
    intro entry hentry
    obtain ⟨m, -, rfl⟩ := List.mem_map.1 hentry
    rfl
  have hsaid : ∀ entry ∈ e.value.map equality, ∀ d ∈ entry.said, d.IsOf entry := by
    intro entry hentry
    obtain ⟨m, -, rfl⟩ := List.mem_map.1 hentry
    exact isOf_of_mem_said_of_nested fun m' heq => nomatch heq
  obtain ⟨-, added, hadded, hdiagnostics⟩ :=
    exists_added_run (upTo_empty .equality) hcategory hsaid
  rw [e.nested_eq_run, hdiagnostics]
  intro d hd
  obtain ⟨entry, hentry, hof⟩ := hadded d hd
  obtain ⟨m, -, rfl⟩ := List.mem_map.1 hentry
  exact ⟨m, hof⟩

/-- A nested diagnostic gets a name below the key of the entry. Matches come first in the order of the
categories, so the category that a nested loss names stays no later than that of the entry. -/
theorem isOf_of_mem_rehomed (e : ElemMatch) :
    ∀ d ∈ e.nested.rehomed .element e.key, d.IsOf (element e) := by
  intro d hd
  obtain ⟨inner, hinner, rfl⟩ := List.mem_map.1 hd
  obtain ⟨m, hof⟩ := exists_isOf_of_mem_nested e inner hinner
  have hrank : Category.equality.rank ≤ Category.element.rank := by decide
  exact
    { category_eq := rfl
      isUnder := isUnder_nestedKey e.key inner.key
      canReport := Category.canReport_element hof.canReport
      rank_le := fun previous hprevious => Nat.le_trans (hof.rank_le previous hprevious) hrank }

theorem isOf_of_mem_said (e : Entry) : ∀ d ∈ e.said, d.IsOf e := by
  refine isOf_of_mem_said_of_nested fun m he => ?_
  rw [he]
  exact isOf_of_mem_rehomed m

end Entry

namespace Request

variable (r : Request)

/-- What the entries of some categories add, which are run in ascending order. -/
theorem exists_added_run {categories : List Category}
    (hascending : categories.Pairwise fun c later => c.rank < later.rank) {draft : Draft}
    (hdraft : ∀ c ∈ categories, draft.UpTo c) :
    ∃ added, (∀ d ∈ added, d.category ∈ categories ∧ ∃ e ∈ r.entriesOf d.category, d.IsOf e) ∧
      added.Pairwise (fun d later => d.category.rank ≤ later.category.rank) ∧
      (draft.run ((categories.flatMap r.entriesOf).flatMap Entry.history)).diagnostics =
        draft.diagnostics ++ added := by
  induction categories generalizing draft with
  | nil => exact ⟨[], fun d hd => absurd hd List.not_mem_nil, .nil, (List.append_nil _).symm⟩
  | cons category rest ih =>
      rw [List.pairwise_cons] at hascending
      rw [List.forall_mem_cons] at hdraft
      obtain ⟨hupTo, first, hfirst, hdiagnostics⟩ := Entry.exists_added_run hdraft.1
        (fun e he => r.category_of_mem_entriesOf he)
        (fun e _ => e.isOf_of_mem_said)
      -- the clauses that the later categories may meet are of this one or of an earlier one
      obtain ⟨later, hlater, hsorted, hrest⟩ := ih hascending.2
        fun c hc => hupTo.mono (Nat.le_of_lt (hascending.1 c hc))
      have hcategory : ∀ d ∈ first, d.category = category ∧ ∃ e ∈ r.entriesOf category, d.IsOf e := by
        intro d hd
        obtain ⟨e, he, hof⟩ := hfirst d hd
        exact ⟨hof.category_eq.trans (r.category_of_mem_entriesOf he), e, he, hof⟩
      refine ⟨first ++ later, ?_, ?_, ?_⟩
      · rw [List.forall_mem_append]
        constructor
        · intro d hd
          obtain ⟨heq, hof⟩ := hcategory d hd
          rw [heq]
          exact ⟨List.mem_cons_self, hof⟩
        · intro d hd
          exact ⟨List.mem_cons_of_mem _ (hlater d hd).1, (hlater d hd).2⟩
      · rw [List.pairwise_append]
        refine ⟨?_, hsorted, ?_⟩
        · refine List.pairwise_of_forall_mem_list ?_
          intro d hd d' hd'
          have hsame : d.category = d'.category :=
            (hcategory d hd).1.trans (hcategory d' hd').1.symm
          exact Nat.le_of_eq (congrArg Category.rank hsame)
        · intro d hd d' hd'
          rw [(hcategory d hd).1]
          exact Nat.le_of_lt (hascending.1 _ (hlater d' hd').1)
      · rw [List.flatMap_cons, List.flatMap_append, run_append, hrest, hdiagnostics,
          List.append_assoc]

theorem diagnostics_draft :
    (∀ d ∈ r.draft.diagnostics, ∃ e ∈ r.entriesOf d.category, d.IsOf e) ∧
      r.draft.diagnostics.Pairwise fun d later => d.category.rank ≤ later.category.rank := by
  have hascending : Category.order.Pairwise fun c later => c.rank < later.rank := by decide
  obtain ⟨added, hadded, hsorted, hdiagnostics⟩ :=
    r.exists_added_run hascending fun c _ => upTo_empty c
  have hdraft : r.draft.diagnostics = added := by
    rw [r.draft_eq_run, entries, hdiagnostics]
    rfl
  rw [hdraft]
  exact ⟨fun d hd => (hadded d hd).2, hsorted⟩

end Request

/-- **Where diagnostics come from.** Whatever a compilation reports belongs to an entry of the category
that it names: its key is that of the entry or continues it behind a dot, its reason is one that the
category can have, and the category of a lost clause is not later than its own. The diagnostics come
in the order of the categories. -/
theorem diagnostics_are_attributable (r : Request) :
    ∃ c, r.compile false = .ok c ∧ (∀ required c', r.compile required = .ok c' → c' = c) ∧
      (∀ d ∈ c.diagnostics,
        (∃ e ∈ r.entriesOf d.category,
          d.key = e.key ∨ ∃ below, d.key = e.key ++ "." ++ below) ∧
        d.category.canReport d.reason = true ∧
        ∀ previous, d.reason = .overwritten previous →
          Category.order.idxOf previous ≤ Category.order.idxOf d.category) ∧
      c.diagnostics.Pairwise fun d later =>
        Category.order.idxOf d.category ≤ Category.order.idxOf later.category := by
  obtain ⟨hdiagnostics, hsorted⟩ := r.diagnostics_draft
  refine ⟨r.draft.compiled, r.compile_false, fun required c' => r.eq_of_compile_eq_ok, ?_, hsorted⟩
  intro d hd
  obtain ⟨e, he, hof⟩ := hdiagnostics d hd
  rw [hof.category_eq] at he ⊢
  exact ⟨⟨e, he, hof.isUnder⟩, hof.canReport, hof.rank_le⟩

end FilterQuery
