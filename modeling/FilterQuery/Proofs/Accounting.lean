import FilterQuery.Proofs.Losses

/-!
# Every entry is accounted for

An entry is skipped or it counts, and its value has no say in this beyond being there. A skipped entry
leaves one report and does nothing else. An entry that counts never reports a skip itself, but the
matches of an entry for list elements pass gates of their own, and what the nested draft says of those
that are skipped is taken over.

So the books balance: the entries that counted and the skips that were reported are all entries of the
request, and besides them the skipped matches of the entries for list elements.
-/

namespace FilterQuery

open Draft

def Match.isSkipped (m : Match) : Bool := Text.isBlank m.key

def Like.isSkipped (l : Like) : Bool := Text.isBlank l.key || Text.isBlank l.value

def ElemMatch.isSkipped (e : ElemMatch) : Bool := Text.isBlank e.key

def Range.isSkipped (r : Range) : Bool := Text.isBlank r.key || r.value.isNone

def Membership.isSkipped (m : Membership) : Bool := Text.isBlank m.key || m.value.isNone

def Entry.isSkipped : Entry → Bool
  | .equality m => m.isSkipped
  | .substring l => l.isSkipped
  | .element e => e.isSkipped
  | .range r => r.isSkipped
  | .membership _ m => m.isSkipped

/-- How many matches of the entry are skipped. A skipped entry does not look at its matches. -/
def ElemMatch.skippedMatches (e : ElemMatch) : Nat :=
  if e.isSkipped then 0 else e.value.countP Match.isSkipped

def Entry.skippedMatches : Entry → Nat
  | .element e => e.skippedMatches
  | _ => 0

theorem Entry.skippedMatches_of_isSkipped {e : Entry} (h : e.isSkipped = true) :
    e.skippedMatches = 0 := by
  cases e with
  | element m => exact if_pos h
  | _ => rfl

theorem Entry.skippedMatches_of_element?_eq_none {e : Entry} (h : e.element? = none) :
    e.skippedMatches = 0 := by
  cases e with
  | element m => cases h
  | _ => rfl

theorem Diagnostic.isSkip_of_isOverwritten (d : Diagnostic) (h : d.isOverwritten = true) :
    d.isSkip = false := by
  obtain ⟨category, key, reason⟩ := d
  cases reason with
  | overwritten previous => rfl
  | _ => cases h

theorem Reason.isSkip_of_isOmission {reason : Reason} (h : reason.isOmission = true) :
    reason.isSkip = false := by
  cases reason with
  | blankKey => cases h
  | blankPattern => cases h
  | missingValue => cases h
  | _ => rfl

namespace Draft.Action

/-- A report of anything but a skipped entry, or a write. -/
def IsPlain : Action → Prop
  | .report _ _ reason => reason.isSkip = false
  | .write _ _ _ => True
  | _ => False

theorem IsPlain.counted_eq {action : Action} (h : action.IsPlain) : action.counted = 0 := by
  cases action with
  | count => exact h.elim
  | _ => rfl

end Draft.Action

namespace Request

/-- How many entries the seven lists hold. -/
def entryCount (r : Request) : Nat :=
  r.query.equalities.length + r.query.substrings.length + r.query.elements.length
    + r.filter.ranges.length + r.filter.anyOf.length + r.filter.noneOf.length
    + r.filter.allOf.length

variable (r : Request)

theorem length_entries : r.entries.length = r.entryCount := by
  simp only [entries_eq, List.length_append, List.length_map, entryCount]

theorem isEmpty_eq_true_iff : r.isEmpty = true ↔ r.entryCount = 0 := by
  simp only [isEmpty, entryCount, Bool.and_eq_true, List.isEmpty_iff, Nat.add_eq_zero_iff,
    List.length_eq_zero_iff]

theorem countP_entries : r.entries.countP (!·.isSkipped) =
    r.query.equalities.countP (!·.isSkipped) + r.query.substrings.countP (!·.isSkipped)
      + r.query.elements.countP (!·.isSkipped) + r.filter.ranges.countP (!·.isSkipped)
      + r.filter.anyOf.countP (!·.isSkipped) + r.filter.noneOf.countP (!·.isSkipped)
      + r.filter.allOf.countP (!·.isSkipped) := by
  simp only [entries_eq, List.countP_append, List.countP_map]
  rfl

theorem sum_skippedMatches : (r.entries.map Entry.skippedMatches).sum =
    (r.query.elements.map ElemMatch.skippedMatches).sum :=
  r.sum_entries_eq Entry.skippedMatches fun _ he => Entry.skippedMatches_of_element?_eq_none he

end Request

variable [RegexLibrary]

theorem Draft.Action.IsPlain.isSkip_of_mem {action : Action} (h : action.IsPlain) {d : Diagnostic}
    (hd : d ∈ action.diagnostics) : d.isSkip = false := by
  cases action with
  | count => exact h.elim
  | absorb category key nested => exact h.elim
  | report category key reason =>
      have heq : d = ⟨category, key, reason⟩ := List.mem_singleton.1 hd
      rw [heq]
      exact h
  | write category key value =>
      obtain ⟨message, -, rfl⟩ := List.mem_map.1 hd
      rfl

namespace Entry

theorem history_of_isBlank_key {e : Entry} (h : Text.isBlank e.key = true) :
    e.history = [.report e.category e.key .blankKey] := by
  cases e with
  | _ =>
      simp only [key] at h
      simp [history, notes, clause?, category, key, h]

/-- A skipped entry reports that it is skipped, and that is all it does. -/
theorem history_of_isSkipped {e : Entry} (h : e.isSkipped = true) :
    ∃ reason, reason.isSkip = true ∧ e.history = [.report e.category e.key reason] := by
  by_cases hkey : Text.isBlank e.key = true
  · exact ⟨.blankKey, rfl, history_of_isBlank_key hkey⟩
  · cases e with
    | equality m => exact absurd h hkey
    | element e => exact absurd h hkey
    | substring l =>
        have hvalue : Text.isBlank l.value = true := (Bool.or_eq_true_iff.1 h).resolve_left hkey
        simp only [key] at hkey
        exact ⟨.blankPattern, rfl, by simp [history, notes, clause?, category, key, hkey, hvalue]⟩
    | range r =>
        have hvalue : r.value.isNone = true := (Bool.or_eq_true_iff.1 h).resolve_left hkey
        rw [Option.isNone_iff_eq_none] at hvalue
        simp only [key] at hkey
        exact ⟨.missingValue, rfl, by simp [history, notes, clause?, category, key, hkey, hvalue]⟩
    | membership q m =>
        have hvalue : m.value.isNone = true := (Bool.or_eq_true_iff.1 h).resolve_left hkey
        rw [Option.isNone_iff_eq_none] at hvalue
        simp only [key] at hkey
        exact ⟨.missingValue, rfl, by simp [history, notes, clause?, category, key, hkey, hvalue]⟩

theorem clause?_of_isSkipped {e : Entry} (h : e.isSkipped = true) : e.clause? = none := by
  obtain ⟨reason, -, hhistory⟩ := history_of_isSkipped h
  cases hclause : e.clause? with
  | none => rfl
  | some c =>
      have hwrite : Action.write e.category c.1 c.2 ∈ e.history := by simp [history, hclause]
      rw [hhistory] at hwrite
      cases List.mem_singleton.1 hwrite

/-- An entry without matches of its own counts before it reports anything. -/
theorem notes_of_counts {e : Entry} (h : e.isSkipped = false) (helement : e.element? = none) :
    ∃ reports, e.notes = .count :: reports ∧ ∀ action ∈ reports, action.IsPlain := by
  cases e with
  | equality m =>
      have hkey : Text.isBlank m.key = false := h
      refine ⟨_, by simp only [notes, hkey, Bool.false_eq_true, ↓reduceIte]; rfl, ?_⟩
      intro action haction
      rcases List.mem_append.1 haction with hissue | hfault
      · obtain ⟨i, hi, rfl⟩ := List.mem_map.1 hissue
        exact Reason.isSkip_of_isOmission (m.isOmission_of_mem_clause i hi)
      · split at hfault
        · rw [List.mem_singleton.1 hfault]
          exact Reason.isSkip_of_isOmission m.value.isOmission_fault
        · exact absurd hfault List.not_mem_nil
  | substring l =>
      obtain ⟨hkey, hvalue⟩ := Bool.or_eq_false_iff.1 h
      exact ⟨[], by simp [notes, hkey, hvalue], by simp⟩
  | element e => cases helement
  | range r =>
      obtain ⟨hkey, hvalue⟩ := Bool.or_eq_false_iff.1 h
      obtain ⟨bounds, hbounds⟩ := Option.isSome_iff_exists.1 (Option.isNone_eq_false_iff.1 hvalue)
      refine ⟨_, by simp only [notes, hkey, hbounds, Bool.false_eq_true, ↓reduceIte]; rfl, ?_⟩
      intro action haction
      split at haction
      · rw [List.mem_singleton.1 haction]
        rfl
      · exact absurd haction List.not_mem_nil
  | membership q m =>
      obtain ⟨hkey, hvalue⟩ := Bool.or_eq_false_iff.1 h
      obtain ⟨values, hvalues⟩ := Option.isSome_iff_exists.1 (Option.isNone_eq_false_iff.1 hvalue)
      refine ⟨_, by simp only [notes, hkey, hvalues, Bool.false_eq_true, ↓reduceIte]; rfl, ?_⟩
      intro action haction
      obtain ⟨index, -, rfl⟩ := List.mem_map.1 haction
      rfl

theorem history_of_counts {e : Entry} (h : e.isSkipped = false) (helement : e.element? = none) :
    ∃ later, e.history = .count :: later ∧ ∀ action ∈ later, action.IsPlain := by
  obtain ⟨reports, hnotes, hreports⟩ := notes_of_counts h helement
  refine ⟨_, by rw [history, hnotes, List.cons_append], ?_⟩
  intro action haction
  rcases List.mem_append.1 haction with hreport | hwrite
  · exact hreports action hreport
  · obtain ⟨c, -, rfl⟩ := List.mem_map.1 hwrite
    trivial

/-- All that an entry can do. -/
theorem history_cases (e : Entry) :
    (e.isSkipped = true ∧ ∃ reason, reason.isSkip = true ∧
      e.history = [.report e.category e.key reason]) ∨
    (e.isSkipped = false ∧ e.element? = none ∧ ∃ later, e.history = .count :: later ∧
      ∀ action ∈ later, action.IsPlain) ∨
    ∃ m, e = .element m ∧ m.isSkipped = false ∧ e.history =
      [.count, .absorb .element m.key m.nested, .write .element m.key m.document] := by
  cases hskipped : e.isSkipped with
  | true => exact .inl ⟨rfl, history_of_isSkipped hskipped⟩
  | false =>
      cases helement : e.element? with
      | none => exact .inr (.inl ⟨rfl, rfl, history_of_counts hskipped helement⟩)
      | some m =>
          rw [element?_eq_some_iff] at helement
          subst helement
          exact .inr (.inr ⟨m, rfl, hskipped, ElemMatch.history_eq hskipped⟩)

theorem sum_counted_history (e : Entry) :
    (e.history.map Action.counted).sum = if e.isSkipped then 0 else 1 := by
  obtain ⟨hskipped, reason, -, hhistory⟩ | ⟨hskipped, -, later, hhistory, hplain⟩ |
    ⟨m, rfl, hskipped, hhistory⟩ := e.history_cases
  · rw [hskipped, hhistory]
    rfl
  · have hlater : (later.map Action.counted).sum = 0 := by
      rw [List.sum_eq_zero_iff_forall_eq_nat]
      intro n hn
      obtain ⟨action, haction, rfl⟩ := List.mem_map.1 hn
      exact (hplain action haction).counted_eq
    rw [hskipped, hhistory, List.map_cons, List.sum_cons, hlater]
    rfl
  · rw [show (Entry.element m).isSkipped = false from hskipped, hhistory]
    rfl

theorem countP_isSkip_said_of_element?_eq_none {e : Entry} (helement : e.element? = none) :
    e.said.countP Diagnostic.isSkip = if e.isSkipped then 1 else 0 := by
  obtain ⟨hskipped, reason, hreason, hhistory⟩ | ⟨hskipped, -, later, hhistory, hplain⟩ |
    ⟨m, rfl, -, -⟩ := e.history_cases
  · rw [said, hskipped, hhistory]
    exact List.countP_cons_of_pos hreason
  · have hlater : ∀ d ∈ later.flatMap Action.diagnostics, ¬ d.isSkip = true := by
      intro d hd
      obtain ⟨action, haction, hd⟩ := List.mem_flatMap.1 hd
      rw [(hplain action haction).isSkip_of_mem hd]
      exact Bool.false_ne_true
    rw [said, hskipped, hhistory, List.flatMap_cons, List.countP_append,
      List.countP_eq_zero.2 hlater]
    rfl
  · cases helement

end Entry

namespace ElemMatch

/-- The nested draft reports a skip for each match that is skipped. -/
theorem countP_isSkip_nested (e : ElemMatch) :
    e.nested.diagnostics.countP Diagnostic.isSkip = e.value.countP Match.isSkipped := by
  rw [nested_eq_run, countP_diagnostics_run_empty _ Diagnostic.isSkip_of_isOverwritten,
    Entry.flatMap_diagnostics_flatMap_history]
  induction e.value with
  | nil => rfl
  | cons m rest ih =>
      have hm : (Entry.equality m).said.countP Diagnostic.isSkip = if m.isSkipped then 1 else 0 :=
        Entry.countP_isSkip_said_of_element?_eq_none rfl
      rw [List.map_cons, List.flatMap_cons, List.countP_append, ih, hm, List.countP_cons,
        Nat.add_comm]

theorem countP_isSkip_ownReports (e : ElemMatch) :
    e.ownReports.countP Diagnostic.isSkip = e.value.countP Match.isSkipped := by
  have hnested : (e.nested.rehomed .element e.key).countP Diagnostic.isSkip =
      e.nested.diagnostics.countP Diagnostic.isSkip :=
    countP_rehomed Reason.isSkip .element e.key e.nested
  have hfaults : (faultReports .element e.key e.document).countP Diagnostic.isSkip = 0 := by
    have hplain : Action.IsPlain (.write .element e.key e.document) := trivial
    rw [List.countP_eq_zero]
    intro d hd
    rw [hplain.isSkip_of_mem hd]
    exact Bool.false_ne_true
  rw [ownReports, List.countP_append, hnested, hfaults, Nat.add_zero, e.countP_isSkip_nested]

end ElemMatch

theorem Entry.countP_isSkip_said (e : Entry) :
    e.said.countP Diagnostic.isSkip = (if e.isSkipped then 1 else 0) + e.skippedMatches := by
  obtain ⟨hskipped, reason, hreason, hhistory⟩ | ⟨-, helement, -⟩ | ⟨m, rfl, hskipped, -⟩ :=
    e.history_cases
  · rw [said, skippedMatches_of_isSkipped hskipped, hskipped, hhistory]
    exact List.countP_cons_of_pos hreason
  · rw [countP_isSkip_said_of_element?_eq_none helement,
      skippedMatches_of_element?_eq_none helement]
    rfl
  · rw [ElemMatch.said_eq hskipped, m.countP_isSkip_ownReports, skippedMatches,
      ElemMatch.skippedMatches, hskipped, show (Entry.element m).isSkipped = false from hskipped]
    simp

namespace Request

variable (r : Request)

theorem parsed_draft_eq_countP : r.draft.parsed = r.entries.countP (!·.isSkipped) := by
  rw [draft_eq_run, parsed_run_empty]
  induction r.entries with
  | nil => rfl
  | cons e rest ih =>
      rw [List.flatMap_cons, List.map_append, List.sum_append, ih, e.sum_counted_history,
        List.countP_cons, Nat.add_comm]
      cases e.isSkipped with
      | true => rfl
      | false => rfl

theorem countP_isSkip_draft : r.draft.diagnostics.countP Diagnostic.isSkip =
    r.entries.countP Entry.isSkipped + (r.entries.map Entry.skippedMatches).sum := by
  rw [draft_eq_run, countP_diagnostics_run_empty _ Diagnostic.isSkip_of_isOverwritten,
    Entry.flatMap_diagnostics_flatMap_history]
  induction r.entries with
  | nil => rfl
  | cons e rest ih =>
      rw [List.flatMap_cons, List.countP_append, ih, e.countP_isSkip_said, List.countP_cons,
        List.map_cons, List.sum_cons]
      omega

/-- What counted and what was skipped is everything there is. -/
theorem parsed_add_skips : r.draft.parsed + r.draft.diagnostics.countP Diagnostic.isSkip =
    r.entryCount + (r.query.elements.map ElemMatch.skippedMatches).sum := by
  have hsplit : r.entryCount =
      r.entries.countP Entry.isSkipped + r.entries.countP (!·.isSkipped) := by
    rw [← length_entries, List.length_eq_countP_add_countP Entry.isSkipped]
    simp
  rw [parsed_draft_eq_countP, countP_isSkip_draft, sum_skippedMatches, hsplit]
  omega

/-- A request without entries is the only one that neither counts nor reports anything. -/
theorem isEmpty_eq_true_iff_draft :
    r.isEmpty = true ↔ r.draft.parsed = 0 ∧ r.draft.diagnostics = [] := by
  rw [isEmpty_eq_true_iff]
  constructor
  · intro hcount
    have hentries : r.entries = [] := List.eq_nil_of_length_eq_zero (r.length_entries.trans hcount)
    rw [draft, hentries]
    exact ⟨rfl, rfl⟩
  · rintro ⟨hparsed, hsilent⟩
    have hbalance := r.parsed_add_skips
    rw [hparsed, hsilent, List.countP_nil] at hbalance
    omega

end Request

/-- **Every entry counts or is skipped.** The entries that count are those with a key that is not blank
and, where the category asks for more, with a text that is not blank or with a value at all. Where a
clause is required, compilation fails if and only if no entry counts, and otherwise its result is the
one it has where none is required. The count and the reported skips together are the entries of the
request and the skipped matches of its entries for list elements. So nothing counts and nothing is
reported only where there is no entry. -/
theorem compile_accounts_for_entries (r : Request) :
    ∃ c, r.compile false = .ok c ∧
      c.parsed = r.query.equalities.countP (!·.isSkipped)
        + r.query.substrings.countP (!·.isSkipped) + r.query.elements.countP (!·.isSkipped)
        + r.filter.ranges.countP (!·.isSkipped) + r.filter.anyOf.countP (!·.isSkipped)
        + r.filter.noneOf.countP (!·.isSkipped) + r.filter.allOf.countP (!·.isSkipped) ∧
      r.compile true = (if c.parsed = 0 then .error .nothingParsed else .ok c) ∧
      c.parsed + c.diagnostics.countP Diagnostic.isSkip =
        r.entryCount + (r.query.elements.map ElemMatch.skippedMatches).sum ∧
      (r.isEmpty = true ↔ c.parsed = 0 ∧ c.diagnostics = []) := by
  refine ⟨r.draft.compiled, r.compile_false, ?_, ?_, r.parsed_add_skips,
    r.isEmpty_eq_true_iff_draft⟩
  · rw [← r.countP_entries]
    exact r.parsed_draft_eq_countP
  · simp only [Request.compile, Bool.true_and, beq_iff_eq]

end FilterQuery
