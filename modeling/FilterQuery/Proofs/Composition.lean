import FilterQuery.Proofs.Entries

/-!
# Compilation entry by entry

All entries write into one draft, so it is not obvious that one entry cannot disturb another. What an
entry does is a history that does not look at the draft, and what a draft holds after a history is put
together from its actions. So a request compiles to what its entries compile to alone: the last entry
that has a key decides its clause, the counts add up, and the diagnostics follow one another. Only the
reports of lost clauses belong to no entry alone.
-/

namespace FilterQuery

open Draft

variable [RegexLibrary]

/-- What is said besides the loss of clauses. -/
def Compiled.lasting (c : Compiled) : List Diagnostic := c.diagnostics.filter (!·.isOverwritten)

/-- What an entry compiles to in a request of its own. -/
def Entry.compiled (e : Entry) : Compiled := (empty.run e.history).compiled

theorem Request.compile_false (r : Request) : r.compile false = .ok r.draft.compiled := rfl

/-- Whether a clause is required decides whether there is a result, and not which one. -/
theorem Request.eq_of_compile_eq_ok (r : Request) {required : Bool} {c : Compiled}
    (h : r.compile required = .ok c) : c = r.draft.compiled := by
  simp only [compile] at h
  split at h
  · cases h
  · exact (Except.ok.inj h).symm

theorem Entry.compile_alone (e : Entry) :
    (Request.ofEntries [e]).compile false = .ok e.compiled := by
  rw [Request.compile_false, Request.draft_eq_run, Request.entries_ofEntries_singleton]
  simp only [List.flatMap_cons, List.flatMap_nil, List.append_nil]
  rfl

theorem Entry.mapM_compile_alone (entries : List Entry) :
    entries.mapM (fun e => (Request.ofEntries [e]).compile false) =
      .ok (entries.map Entry.compiled) := by
  simp only [Entry.compile_alone]
  exact List.mapM_pure

theorem Entry.get?_compiled (e : Entry) (key : String) :
    e.compiled.clauses.get? key = lastWritten? key e.history :=
  get?_clauses_run_empty e.history key

theorem Entry.parsed_compiled (e : Entry) :
    e.compiled.parsed = (e.history.map Action.counted).sum :=
  parsed_run_empty e.history

theorem Draft.lasting_compiled_run (actions : List Action) :
    (empty.run actions).compiled.lasting =
      (actions.flatMap Action.diagnostics).filter (!·.isOverwritten) :=
  filter_diagnostics_run_empty (!·.isOverwritten) (by simp) actions

section Whole

variable (r : Request)

theorem Request.get?_draft (key : String) :
    r.draft.clauses.get? key =
      (r.entries.map Entry.compiled).reverse.findSome? fun part => part.clauses.get? key := by
  calc r.draft.clauses.get? key
      = lastWritten? key (r.entries.flatMap Entry.history) := by
        rw [Request.draft_eq_run, get?_clauses_run_empty]
    _ = r.entries.reverse.findSome? fun e => e.compiled.clauses.get? key := by
        rw [lastWritten?_flatMap]
        simp only [Entry.get?_compiled]
    _ = (r.entries.map Entry.compiled).reverse.findSome? fun part => part.clauses.get? key := by
        rw [← List.map_reverse, List.findSome?_map]
        rfl

theorem Request.parsed_draft :
    r.draft.parsed = ((r.entries.map Entry.compiled).map Compiled.parsed).sum := by
  rw [Request.draft_eq_run, parsed_run_empty]
  induction r.entries with
  | nil => rfl
  | cons e rest ih =>
      rw [List.flatMap_cons, List.map_append, List.sum_append, ih, List.map_cons, List.map_cons,
        List.sum_cons, Entry.parsed_compiled]

theorem Request.lasting_draft :
    r.draft.compiled.lasting = (r.entries.map Entry.compiled).flatMap Compiled.lasting := by
  rw [Request.draft_eq_run, lasting_compiled_run]
  induction r.entries with
  | nil => rfl
  | cons e rest ih =>
      have he : e.compiled.lasting =
          (e.history.flatMap Action.diagnostics).filter (!·.isOverwritten) :=
        lasting_compiled_run e.history
      rw [List.flatMap_cons, List.flatMap_append, List.filter_append, ih, List.map_cons,
        List.flatMap_cons, he]

end Whole

/-- **Compilation is compositional.** A request compiles to what its entries compile to alone, taken
in the order of the categories and within a category in the order of its list. Of all entries that
write a key the last one has it, the counts add up, and apart from the losses of clauses the
diagnostics are those of the entries one after the other. -/
theorem compile_eq_combination (r : Request) :
    ∃ (whole : Compiled) (parts : List Compiled),
      r.compile false = .ok whole ∧
      (r.query.equalities.map .equality ++ r.query.substrings.map .substring
        ++ r.query.elements.map .element ++ r.filter.ranges.map .range
        ++ r.filter.anyOf.map (.membership .anyOf) ++ r.filter.noneOf.map (.membership .noneOf)
        ++ r.filter.allOf.map (.membership .allOf) : List Entry).mapM
          (fun e => (Request.ofEntries [e]).compile false) = .ok parts ∧
      (∀ key, whole.clauses.get? key =
        parts.reverse.findSome? fun part => part.clauses.get? key) ∧
      (∀ key, whole.clauses.contains key = false ↔
        ∀ part ∈ parts, part.clauses.contains key = false) ∧
      whole.parsed = (parts.map Compiled.parsed).sum ∧
      whole.lasting = parts.flatMap Compiled.lasting := by
  refine ⟨r.draft.compiled, r.entries.map Entry.compiled, r.compile_false, ?_, r.get?_draft, ?_,
    r.parsed_draft, r.lasting_draft⟩
  · rw [← Request.entries_eq]
    exact Entry.mapM_compile_alone r.entries
  · intro key
    have hnone : ∀ clauses : QueryDocument,
        clauses.contains key = false ↔ clauses.get? key = none := by
      intro clauses
      rw [KeyMap.contains, Option.isSome_eq_false_iff, Option.isNone_iff_eq_none]
    have hwhole : r.draft.compiled.clauses.get? key = none ↔
        ∀ part ∈ r.entries.map Entry.compiled, part.clauses.get? key = none := by
      rw [show r.draft.compiled.clauses = r.draft.clauses from rfl, r.get?_draft,
        List.findSome?_eq_none_iff]
      simp only [List.mem_reverse]
    simp only [hnone, hwhole]

end FilterQuery
