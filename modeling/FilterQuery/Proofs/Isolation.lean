import FilterQuery.Proofs.Accounting
import FilterQuery.Proofs.CanonicalRequests
import FilterQuery.Proofs.Replacement

/-!
# Malformed values stay where they are

Two requests that differ in some values only have the same entries side by side, and whether an entry is
skipped does not depend on these values. So as many entries count in both. A clause is written by the
last entry that writes its key, so a key that no differing entry writes gets its clause from entries that
are the same in both requests, whatever path the other ones have moved to.
-/

namespace FilterQuery

open Draft

/-- An entry in place of another, skipped if and only if the other is. -/
def Entry.SkippedAlike (e e' : Entry) : Prop := e'.isSkipped = e.isSkipped

theorem Pointwise.skippedAlike {α : Type} {R : Nat → α → α → Prop} {entry : α → Entry}
    (hentry : ∀ i x y, R i x y → (entry x).SkippedAlike (entry y)) {i : Nat} {xs ys : List α}
    (h : Pointwise R i xs ys) : (xs.map entry).Forall₂ Entry.SkippedAlike (ys.map entry) := by
  rw [List.forall₂_map_left_iff, List.forall₂_map_right_iff]
  exact h.forall₂ hentry

theorem Match.SameBut.skippedAlike {changed : Prop} {m m' : Match} (h : m.SameBut changed m') :
    (Entry.equality m).SkippedAlike (.equality m') :=
  congrArg Text.isBlank h.key

theorem ElemMatch.SameBut.skippedAlike {changed : Nat → Prop} {e e' : ElemMatch}
    (h : e.SameBut changed e') : (Entry.element e).SkippedAlike (.element e') :=
  congrArg Text.isBlank h.key

theorem isNone_eq_of_rel {α : Type} {R : α → α → Prop} {o o' : Option α} (h : Option.Rel R o o') :
    o'.isNone = o.isNone := by
  cases h with
  | none => rfl
  | some h => rfl

theorem Range.SameBut.skippedAlike {changed : String → Prop} {x x' : Range}
    (h : x.SameBut changed x') : (Entry.range x).SkippedAlike (.range x') := by
  change (Text.isBlank x'.key || x'.value.isNone) = (Text.isBlank x.key || x.value.isNone)
  rw [h.key, isNone_eq_of_rel h.value]

theorem Membership.SameBut.skippedAlike (q : Quantifier) {changed : Nat → Prop} {m m' : Membership}
    (h : m.SameBut changed m') : (Entry.membership q m).SkippedAlike (.membership q m') := by
  change (Text.isBlank m'.key || m'.value.isNone) = (Text.isBlank m.key || m.value.isNone)
  rw [h.key, isNone_eq_of_rel h.value]

theorem Request.SameBut.skippedAlike {S : Position → Prop} {r r' : Request} (h : r.SameBut S r') :
    r.entries.Forall₂ Entry.SkippedAlike r'.entries := by
  have hequalities := h.query.equalities.skippedAlike fun _ _ _ hm => hm.skippedAlike
  have hsubstrings : (r.query.substrings.map Entry.substring).Forall₂ Entry.SkippedAlike
      (r'.query.substrings.map Entry.substring) := by
    rw [h.query.substrings]
    exact List.forall₂_same.2 fun e _ => rfl
  have helements := h.query.elements.skippedAlike fun _ _ _ he => he.skippedAlike
  have hranges := h.filter.ranges.skippedAlike fun _ _ _ hx => hx.skippedAlike
  have hanyOf := h.filter.anyOf.skippedAlike fun _ _ _ hm => hm.skippedAlike .anyOf
  have hnoneOf := h.filter.noneOf.skippedAlike fun _ _ _ hm => hm.skippedAlike .noneOf
  have hallOf := h.filter.allOf.skippedAlike fun _ _ _ hm => hm.skippedAlike .allOf
  have hquery := List.rel_append (List.rel_append hequalities hsubstrings) helements
  have hfilter := List.rel_append (List.rel_append (List.rel_append hquery hranges) hanyOf) hnoneOf
  rw [entries_eq, entries_eq]
  exact List.rel_append hfilter hallOf

theorem Request.exists_ofJson_of_replacedAt {S : Position → Prop} {body body' : Json} {r : Request}
    (h : ofJson .v3 body = .ok r) (hbody : ReplacedAt S body body') :
    ∃ r', ofJson .v3 body' = .ok r' ∧ r.SameBut S r' := by
  have hnull := Json.keepsNull_recordsAlike _ _ body body' hbody
  by_cases hbodyNull : body = .null
  · rw [hnull.1 hbodyNull]
    rw [hbodyNull] at h
    exact ⟨r, h, .refl S r⟩
  · rw [ofJson_of_ne_null hbodyNull] at h
    rw [ofJson_of_ne_null fun heq => hbodyNull (hnull.2 heq)]
    exact carries_decode S body body' hbody r h

theorem Entry.countP_eq_of_skippedAlike {entries others : List Entry}
    (h : entries.Forall₂ SkippedAlike others) :
    others.countP (!·.isSkipped) = entries.countP (!·.isSkipped) := by
  induction h with
  | nil => rfl
  | cons he _ ih => rw [List.countP_cons, List.countP_cons, he, ih]

section Library

variable [RegexLibrary]

namespace Entry

variable {entries others : List Entry} (h : entries.Forall₂ SkippedAlike others)

include h

/-- A key that no differing entry writes was last written by the same entry in both runs. -/
theorem get?_run_eq {key : String}
    (hkey : ∀ p ∈ entries.zip others, p.1 ≠ p.2 →
      lastWritten? key p.1.history = none ∧ lastWritten? key p.2.history = none) :
    (empty.run (others.flatMap Entry.history)).clauses.get? key =
      (empty.run (entries.flatMap Entry.history)).clauses.get? key := by
  rw [get?_clauses_run_empty, get?_clauses_run_empty]
  induction h with
  | nil => rfl
  | @cons e e' rest rest' _ _ ih =>
      rw [List.zip_cons_cons, List.forall_mem_cons] at hkey
      -- the entry is the same in both runs, or it writes the key in neither
      have hthis : lastWritten? key e'.history = lastWritten? key e.history := by
        by_cases hsame : e = e'
        · rw [hsame]
        · obtain ⟨hnone, hnone'⟩ := hkey.1 hsame
          rw [hnone, hnone']
      rw [List.flatMap_cons, List.flatMap_cons, lastWritten?_append, lastWritten?_append,
        ih hkey.2, hthis]

end Entry

theorem Entry.lastWritten?_of_not_contains {e : Entry} {key : String}
    (h : (empty.add e).clauses.contains key = false) : lastWritten? key e.history = none := by
  rw [add_eq_run, KeyMap.contains, get?_clauses_run_empty, Option.isSome_eq_false_iff,
    Option.isNone_iff_eq_none] at h
  exact h

/-- **Malformed values are isolated.** In a body that is read, the JSON in any set of places where any
JSON may stand can be replaced. The body is read all the same, to a request that differs in these places
only. As many entries count, so a required clause is found or missed alike; and every key that no
differing entry writes on its own, neither before nor after, has the same clause. -/
theorem replaced_values_are_isolated {S : Position → Prop} {body body' : Json} {r : Request}
    (h : Request.ofJson .v3 body = .ok r) (hbody : Request.ReplacedAt S body body') :
    ∃ r', Request.ofJson .v3 body' = .ok r' ∧ r.SameBut S r' ∧
      r'.entries.length = r.entries.length ∧
      ∃ c c', r.compile false = .ok c ∧ r'.compile false = .ok c' ∧ c'.parsed = c.parsed ∧
        (∀ required, r.compile required = .ok c ∧ r'.compile required = .ok c' ∨
          r.compile required = .error .nothingParsed ∧
            r'.compile required = .error .nothingParsed) ∧
        ∀ key, (∀ p ∈ r.entries.zip r'.entries, p.1 ≠ p.2 →
            (empty.add p.1).clauses.contains key = false ∧
              (empty.add p.2).clauses.contains key = false) →
          c'.clauses.get? key = c.clauses.get? key := by
  obtain ⟨r', hr', hsame⟩ := Request.exists_ofJson_of_replacedAt h hbody
  have hentries := hsame.skippedAlike
  have hparsed : r'.draft.parsed = r.draft.parsed := by
    rw [r'.parsed_draft_eq_countP, r.parsed_draft_eq_countP]
    exact Entry.countP_eq_of_skippedAlike hentries
  refine ⟨r', hr', hsame, hentries.length_eq.symm, r.draft.compiled, r'.draft.compiled,
    r.compile_false, r'.compile_false, hparsed, ?_, ?_⟩
  · intro required
    have hcount : r'.draft.compiled.parsed = r.draft.compiled.parsed := hparsed
    rw [Request.compile, Request.compile, hcount]
    cases required && r.draft.compiled.parsed == 0 with
    | true => exact .inr ⟨rfl, rfl⟩
    | false => exact .inl ⟨rfl, rfl⟩
  · intro key hkey
    rw [Draft.compiled, Draft.compiled, r.draft_eq_run, r'.draft_eq_run]
    refine Entry.get?_run_eq hentries fun p hp hdiffers => ?_
    obtain ⟨hfirst, hsecond⟩ := hkey p hp hdiffers
    exact ⟨Entry.lastWritten?_of_not_contains hfirst, Entry.lastWritten?_of_not_contains hsecond⟩

end Library

/-- A list of two matches, of which the first has any value. -/
def twoMatchesList (value : Json) : Json := .array [
  .object [("key", .string "state"), ("value", value)],
  .object [("key", .string "count"), ("value", .number (.int 2))]]

def twoMatchesBody (value : Json) : Json :=
  .object [("query", .object [("match", twoMatchesList value)])]

def twoMatches (value : RequestValue) : Request where
  query := { equalities := [⟨"state", value⟩, ⟨"count", .int 2⟩] }

/-- A text is replaced by a pair for a field below, which moves the match to another path. -/
theorem replaced_values_are_isolated_twoMatchesBody :
    Request.ReplacedAt (fun p => p = .equality 0) (twoMatchesBody (.string "open"))
      (twoMatchesBody (.object [("key", .string "city"), ("value", .bool true)])) ∧
    ∃ c c', (twoMatches (.string "open")).compile false = .ok c ∧
      (twoMatches (.pair "city" (.bool true))).compile false = .ok c' ∧
      c.parsed = 2 ∧ c'.parsed = 2 ∧ c.clauses.contains "state" = true ∧
      c'.clauses.contains "state" = false ∧ c'.clauses.get? "count" = some (.int 2) := by
  let S : Position → Prop := fun p => p = .equality 0
  let city : Json := .object [("key", .string "city"), ("value", .bool true)]
  have hmatch : Match.ReplacedAt (S (.equality 0))
      (.object [("key", .string "state"), ("value", .string "open")])
      (.object [("key", .string "state"), ("value", city)]) :=
    .object (.cons ⟨rfl, rfl⟩ (.cons ⟨rfl, fun h => absurd rfl h⟩ .nil))
  have hmatches : Json.ListsAlike (fun i => Match.ReplacedAt (S (.equality i)))
      (twoMatchesList (.string "open")) (twoMatchesList city) :=
    .array (.cons hmatch (.cons (.same _) (.nil 2)))
  have hquery : QueryPart.ReplacedAt S (.object [("match", twoMatchesList (.string "open"))])
      (.object [("match", twoMatchesList city)]) :=
    .object (.cons ⟨rfl, hmatches⟩ .nil)
  have hbody : Request.ReplacedAt S (twoMatchesBody (.string "open")) (twoMatchesBody city) :=
    .object (.cons ⟨rfl, hquery⟩ .nil)
  have hread : Request.ofJson .v3 (twoMatchesBody (.string "open")) =
      .ok (twoMatches (.string "open")) := rfl
  obtain ⟨r', hr', -, -, c, c', hc, hc', hparsed, -, hkeys⟩ :=
    replaced_values_are_isolated hread hbody
  obtain rfl : twoMatches (.pair "city" (.bool true)) = r' := Except.ok.inj hr'
  have hcount : c'.clauses.get? "count" = c.clauses.get? "count" := by
    refine hkeys "count" fun p hp hdiffers => ?_
    rcases List.mem_pair.1 hp with rfl | rfl
    · exact ⟨by decide +kernel, by decide +kernel⟩
    · exact absurd rfl hdiffers
  cases hc
  cases hc'
  refine ⟨hbody, _, _, rfl, rfl, ?_, ?_, ?_, ?_, ?_⟩
  · decide +kernel
  · rw [hparsed]
    decide +kernel
  · decide +kernel
  · decide +kernel
  · rw [hcount]
    rfl

end FilterQuery
