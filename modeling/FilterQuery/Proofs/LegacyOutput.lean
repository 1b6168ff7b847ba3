import FilterQuery.Proofs.Attribution
import FilterQuery.Proofs.RecordFields

/-!
# What the older format is compiled to

The older format can ask for texts and for ranges between two bounds. The lift makes sure of that: a
value that is null or missing has become the empty text before any coercion sees it, and the two bounds
that include their end are never there. So no entry of such a request can say anything but that it was
skipped, that a range has no bounds or that a pattern is faulty, and every other entry writes a clause.

The matches are found in the body itself, by the fields of its records. Hence the main result speaks of
what a user wrote, and not only of what was read.
-/

namespace FilterQuery

open Decoder Draft

theorem Diagnostic.exists_previous {d : Diagnostic} (h : d.isOverwritten = true) :
    ∃ previous, d.reason = .overwritten previous := by
  unfold isOverwritten at h
  cases hreason : d.reason with
  | overwritten previous => exact ⟨previous, rfl⟩
  | _ =>
      rw [hreason] at h
      cases h

theorem Draft.length_writtenKeys (actions : List Action) :
    (writtenKeys actions).length = actions.countP Action.isWrite := by
  rw [writtenKeys, List.length_filterMap_eq_countP]
  congr 1
  funext action
  cases action with
  | _ => rfl

/-- What the older format can ask for: a text, or a range between two bounds. -/
inductive Entry.IsOlder : Entry → Prop
  | text (key value : String) : IsOlder (.equality ⟨key, .string value⟩)
  | between (r : Legacy.Range) : IsOlder (.range r.lift)

/-- The reasons that such an entry can have on its own. -/
def Reason.IsOlder (reason : Reason) : Prop :=
  reason = .blankKey ∨ reason = .missingValue ∨ reason = .emptyRange ∨
    ∃ message, reason = .invalidPattern message

theorem Reason.IsOlder.isOverwritten {d : Diagnostic} (h : d.reason.IsOlder) :
    d.isOverwritten = false := by
  unfold Diagnostic.isOverwritten
  rcases h with h | h | h | ⟨message, h⟩
  all_goals rw [h]

namespace Legacy

theorem Bounds.name_of_mem_document {b : Bounds} {c : String × QueryValue}
    (h : c ∈ b.lift.document.entries) : c.1 = "$gt" ∨ c.1 = "$lt" := by
  obtain ⟨v, hop, -, -⟩ := FilterQuery.Bounds.exists_of_mem_document h
  simp only [FilterQuery.Bounds.operators, List.mem_cons, Prod.mk.injEq, List.not_mem_nil,
    or_false] at hop
  rcases hop with ⟨hgt, -⟩ | ⟨hlt, -⟩ | ⟨-, hgte⟩ | ⟨-, hlte⟩
  · exact .inl hgt
  · exact .inr hlt
  · cases hgte
  · cases hlte

end Legacy

namespace Entry.IsOlder

variable {e : Entry} (h : e.IsOlder)

include h

theorem category : e.category = .equality ∨ e.category = .range := by
  cases h with
  | text key value => exact .inl rfl
  | between r => exact .inr rfl

theorem reason_of_mayReport {path : String} {reason : Reason} (hreport : e.MayReport path reason) :
    reason.IsOlder := by
  cases h with
  | text key value =>
      cases hreport with
      | blankKey => exact .inl rfl
      | omission hkey hi => cases hi
      | fault hkey hnone => cases hnone
  | between r =>
      cases hreport with
      | blankKey => exact .inl rfl
      | missingBounds => exact .inr (.inl rfl)
      | emptyRange => exact .inr (.inr (.inl rfl))

end Entry.IsOlder

namespace Legacy

/-- The items of the list of matches in a body. -/
def matchItems (body : Json) : List Json := ((body.part "query" 0).part "match" 0).items

/-- The match that an item stands for. -/
def Match.ofItem (item : Json) : Match :=
  ⟨(item.part "key" 0).textOrEmpty, (item.part "value" 1).textOrEmpty⟩

section

variable {item : Json} {m : Match} (h : Match.decode item = .ok m)

include h

theorem Match.key_of_decode : orDefault "" text (item.part "key" 0) = .ok m.key :=
  part_of_record h (by decide) rfl rfl
    ⟨fits_self fun _ _ => rfl, fits_other (by decide) fun _ _ => rfl⟩

theorem Match.value_of_decode : orDefault "" text (item.part "value" 1) = .ok m.value :=
  part_of_record h (by decide) rfl rfl
    ⟨fits_other (by decide) fun _ _ => rfl, fits_self fun _ _ => rfl⟩

theorem Match.eq_ofItem : m = ofItem item := by
  have hkey := eq_textOrEmpty (key_of_decode h)
  have hvalue := eq_textOrEmpty (value_of_decode h)
  rw [ofItem, ← hkey, ← hvalue]

end

theorem QueryPart.equalities_eq {v : Json} {q : QueryPart} (h : orDefault {} decode v = .ok q) :
    q.equalities = (v.part "match" 0).items.map Match.ofItem ∧
      ∀ item ∈ (v.part "match" 0).items, Match.decode item = .ok (Match.ofItem item) := by
  have hread : ∀ v, decode v = .ok q →
      orDefault [] (list Match.decode) (v.part "match" 0) = .ok q.equalities := fun v hv =>
    part_of_record hv (by decide) rfl rfl
      ⟨fits_self fun _ _ => rfl, fits_other (by decide) fun _ _ => rfl⟩
  cases v with
  | null =>
      cases h
      exact ⟨rfl, fun item hitem => absurd hitem List.not_mem_nil⟩
  | _ => exact eq_map_items (fun _ _ => Match.eq_ofItem) (hread _ h)

theorem Request.equalities_eq {body : Json} {r : Request} (h : decode body = .ok r) :
    r.query.equalities = (matchItems body).map Match.ofItem ∧
      ∀ item ∈ matchItems body, Match.decode item = .ok (Match.ofItem item) := by
  have hquery : orDefault {} QueryPart.decode (body.part "query" 0) = .ok r.query :=
    part_of_record h (by decide) rfl rfl
      ⟨fits_self fun _ _ => rfl, fits_other (by decide) fun _ _ => rfl,
        fits_other (by decide) fun _ _ => rfl, fits_other (by decide) fun _ _ => rfl,
        fits_other (by decide) fun _ _ => rfl⟩
  exact QueryPart.equalities_eq hquery

theorem Request.entries_lift (r : Request) :
    r.lift.entries = r.query.equalities.map (fun m => .equality m.lift) ++
      r.filter.ranges.map fun x => .range x.lift := by
  rw [FilterQuery.Request.entries_eq]
  simp [lift, Function.comp_def]

theorem Request.isOlder_of_mem_entries {r : Request} {e : Entry} (he : e ∈ r.lift.entries) :
    e.IsOlder := by
  rw [entries_lift] at he
  rcases List.mem_append.1 he with he | he
  · obtain ⟨m, -, rfl⟩ := List.mem_map.1 he
    exact .text m.key m.value
  · obtain ⟨x, -, rfl⟩ := List.mem_map.1 he
    exact .between x

theorem Request.entries_lift_eq_append {r : Request} {m : Match} {before after : List Match}
    (hmatches : r.query.equalities = before ++ m :: after) :
    r.lift.entries = before.map (fun m => .equality m.lift) ++ .equality m.lift ::
      (after.map (fun m => .equality m.lift) ++ r.filter.ranges.map fun x => .range x.lift) := by
  rw [entries_lift, hmatches, List.map_append, List.map_cons, List.append_assoc, List.cons_append]

end Legacy

theorem Request.exists_lift_of_ofJson {body : Json} {r : Request} (h : ofJson .v2 body = .ok r) :
    ∃ older : Legacy.Request, r = older.lift ∧
      older.query.equalities = (Legacy.matchItems body).map Legacy.Match.ofItem ∧
      ∀ item ∈ Legacy.matchItems body,
        Legacy.Match.decode item = .ok (Legacy.Match.ofItem item) := by
  by_cases hnull : body = .null
  · rw [hnull] at h ⊢
    cases h
    exact ⟨{}, rfl, rfl, fun item hitem => absurd hitem List.not_mem_nil⟩
  · rw [ofJson_of_ne_null hnull] at h
    obtain ⟨older, holder, rfl⟩ := exists_of_map_eq_ok h
    exact ⟨older, rfl, Legacy.Request.equalities_eq holder⟩

section Library

variable [RegexLibrary]

theorem Draft.mem_diagnostics_run {actions : List Action} {d : Diagnostic}
    (hd : d ∈ (empty.run actions).diagnostics) (hkept : d.isOverwritten = false) :
    d ∈ actions.flatMap Action.diagnostics := by
  have hlost : ∀ d : Diagnostic, d.isOverwritten = true → (!d.isOverwritten) = false := by
    intro d hover
    rw [hover]
    rfl
  have hfilter : d ∈ (empty.run actions).diagnostics.filter (!·.isOverwritten) := by
    rw [List.mem_filter, hkept]
    exact ⟨hd, rfl⟩
  rw [filter_diagnostics_run_empty _ hlost] at hfilter
  exact List.mem_of_mem_filter hfilter

namespace Entry

/-- Every clause is there in the end or was reported as lost, if nothing else is reported as lost. -/
theorem size_clauses_add_losses_run {entries : List Entry} (h : NoLoss (entries.flatMap Entry.said)) :
    (empty.run (entries.flatMap Entry.history)).clauses.size +
        (empty.run (entries.flatMap Entry.history)).diagnostics.countP Diagnostic.isOverwritten =
      entries.countP fun e => e.clause?.isSome := by
  have hwrites : (entries.flatMap Entry.history).countP Action.isWrite =
      entries.countP fun e => e.clause?.isSome := by
    rw [← length_writtenKeys, writtenKeys_flatMap_history, List.length_map,
      List.length_filterMap_eq_countP]
  have hlosses : (((entries.flatMap Entry.history).filter (!·.isWrite)).flatMap
      Action.diagnostics).countP Diagnostic.isOverwritten = 0 := by
    rw [List.countP_eq_zero]
    intro d hd
    obtain ⟨action, haction, hd⟩ := List.mem_flatMap.1 hd
    have hsaid : d ∈ (entries.flatMap Entry.history).flatMap Action.diagnostics :=
      List.mem_flatMap.2 ⟨action, List.mem_of_mem_filter haction, hd⟩
    rw [flatMap_diagnostics_flatMap_history] at hsaid
    rw [h d hsaid]
    exact Bool.false_ne_true
  rw [Draft.size_clauses_run, hwrites, hlosses]
  exact Nat.zero_add _

/-- A clause that no later entry writes over is there in the end. -/
theorem get?_run_of_last {before after : List Entry} {e : Entry} {key : String} {value : QueryValue}
    (hclause : e.clause? = some (key, value))
    (hafter : ∀ later ∈ after, ∀ other, later.clause? ≠ some (key, other)) :
    (empty.run ((before ++ e :: after).flatMap Entry.history)).clauses.get? key = some value := by
  have hnone : after.reverse.findSome? (fun e => lastWritten? key e.history) = none := by
    rw [List.findSome?_eq_none_iff]
    intro later hlater
    cases hlast : lastWritten? key later.history with
    | none => rfl
    | some other =>
        rw [lastWritten?_history_eq_some_iff] at hlast
        exact absurd hlast (hafter later (List.mem_reverse.1 hlater) other)
  have hwritten := (e.lastWritten?_history_eq_some_iff key value).2 hclause
  rw [get?_clauses_run_empty, lastWritten?_flatMap, List.reverse_append, List.reverse_cons,
    List.append_assoc, List.findSome?_append, hnone, Option.none_or, List.singleton_append,
    List.findSome?_cons, hwritten]

end Entry

namespace Entry

theorem clause?_text (key value : String) : (equality ⟨key, .string value⟩).clause? =
    if Text.isBlank key then none else some (key, .regex (.exact value)) := rfl

theorem clause?_text_of_key {key : String} (value : String) (h : Text.isBlank key = false) :
    (equality ⟨key, .string value⟩).clause? = some (key, .regex (.exact value)) := by
  rw [clause?_text, h]
  rfl

theorem key_of_clause?_text {k value key : String} {v : QueryValue}
    (h : (equality ⟨k, .string value⟩).clause? = some (key, v)) : k = key := by
  rw [clause?_text] at h
  split at h
  · cases h
  · cases h
    rfl

theorem key_of_clause?_range {r : Range} {key : String} {v : QueryValue}
    (h : (range r).clause? = some (key, v)) : r.key = key := by
  rw [clause?] at h
  split at h
  · cases h
  · obtain ⟨bounds, -, heq⟩ := Option.map_eq_some_iff.1 h
    cases heq
    rfl

namespace IsOlder

variable {e : Entry} (h : e.IsOlder)

include h

theorem isSome_clause? : e.clause?.isSome = !e.isSkipped := by
  cases h with
  | text key value =>
      have hskipped : (equality ⟨key, .string value⟩).isSkipped = Text.isBlank key := rfl
      rw [clause?_text, hskipped]
      cases Text.isBlank key with
      | true => rfl
      | false => rfl
  | between r =>
      have hskipped : (range r.lift).isSkipped =
          (Text.isBlank r.lift.key || r.lift.value.isNone) := rfl
      rw [clause?, hskipped]
      cases Text.isBlank r.lift.key with
      | true => rfl
      | false =>
          cases r.lift.value with
          | none => rfl
          | some bounds => rfl

theorem shape_of_clause? {key : String} {v : QueryValue} (hclause : e.clause? = some (key, v)) :
    (∃ s, v = .regex (.exact s)) ∨
      ∃ entries, v = .document entries ∧ ∀ c ∈ entries, c.1 = "$gt" ∨ c.1 = "$lt" := by
  cases h with
  | text k value =>
      rw [clause?_text] at hclause
      split at hclause
      · cases hclause
      · cases hclause
        exact .inl ⟨value, rfl⟩
  | between r =>
      rw [clause?] at hclause
      split at hclause
      · cases hclause
      · obtain ⟨bounds, hbounds, heq⟩ := Option.map_eq_some_iff.1 hclause
        obtain ⟨older, -, rfl⟩ := Option.map_eq_some_iff.1 hbounds
        cases heq
        exact .inr ⟨_, rfl, fun c hc => Legacy.Bounds.name_of_mem_document hc⟩

theorem reason_of_mem_said {d : Diagnostic} (hd : d ∈ e.said) : d.reason.IsOlder := by
  obtain ⟨action, haction, hd⟩ := List.mem_flatMap.1 hd
  rcases List.mem_append.1 haction with hnote | hwrite
  · rcases cases_of_mem_notes hnote with rfl | ⟨path, reason, rfl, hreport⟩ | ⟨m, rfl, -⟩
    · cases hd
    · rw [List.mem_singleton.1 hd]
      exact h.reason_of_mayReport hreport
    · cases h
  · obtain ⟨c, -, rfl⟩ := List.mem_map.1 hwrite
    obtain ⟨message, -, rfl⟩ := List.mem_map.1 hd
    exact .inr (.inr (.inr ⟨message, rfl⟩))

end IsOlder

section

variable {entries : List Entry} (holder : ∀ e ∈ entries, e.IsOlder)

include holder

theorem shape_of_get?_run {key : String} {v : QueryValue}
    (hget : (empty.run (entries.flatMap Entry.history)).clauses.get? key = some v) :
    (∃ s, v = .regex (.exact s)) ∨
      ∃ entries, v = .document entries ∧ ∀ c ∈ entries, c.1 = "$gt" ∨ c.1 = "$lt" := by
  obtain ⟨e, he, hclause⟩ := exists_of_get?_run hget
  exact (holder e he).shape_of_clause? hclause

theorem reason_of_mem_flatMap_said {d : Diagnostic} (hd : d ∈ entries.flatMap Entry.said) :
    d.reason.IsOlder := by
  obtain ⟨e, he, hd⟩ := List.mem_flatMap.1 hd
  exact (holder e he).reason_of_mem_said hd

theorem reason_of_mem_diagnostics_run {d : Diagnostic}
    (hd : d ∈ (empty.run (entries.flatMap Entry.history)).diagnostics) :
    d.reason.IsOlder ∨ ∃ previous, d.reason = .overwritten previous := by
  cases hover : d.isOverwritten with
  | true => exact .inr (Diagnostic.exists_previous hover)
  | false =>
      have hsaid := mem_diagnostics_run hd hover
      rw [flatMap_diagnostics_flatMap_history] at hsaid
      exact .inl (reason_of_mem_flatMap_said holder hsaid)

/-- Every entry that counts is there in the end or was reported as lost. -/
theorem countP_eq_size_clauses_add_losses : entries.countP (!·.isSkipped) =
    (empty.run (entries.flatMap Entry.history)).clauses.size +
      (empty.run (entries.flatMap Entry.history)).diagnostics.countP Diagnostic.isOverwritten := by
  have hkept : NoLoss (entries.flatMap Entry.said) := fun d hd =>
    (reason_of_mem_flatMap_said holder hd).isOverwritten
  have hclauses : entries.countP (!·.isSkipped) = entries.countP fun e => e.clause?.isSome :=
    List.countP_congr fun e he => by rw [(holder e he).isSome_clause?]
  rw [hclauses, size_clauses_add_losses_run hkept]

end

end Entry

namespace Legacy

section

variable {r : Request} {m : Match} {before after : List Match}
  (hmatches : r.query.equalities = before ++ m :: after) (hkey : Text.isBlank m.key = false)

include hmatches hkey

theorem Request.contains_draft_lift : r.lift.draft.clauses.contains m.key = true := by
  have hclause := Entry.clause?_text_of_key m.value hkey
  have hmem : .equality m.lift ∈ r.lift.entries := by
    rw [entries_lift_eq_append hmatches]
    exact List.mem_append_right _ List.mem_cons_self
  rw [FilterQuery.Request.draft_eq_run, KeyMap.contains, Option.isSome_iff_ne_none]
  exact Entry.get?_run_ne_none hmem hclause

/-- A match is compiled to the pattern of its value, unless its key is asked for again. -/
theorem Request.get?_draft_lift (hafter : ∀ later ∈ after, later.key ≠ m.key)
    (hranges : ∀ range ∈ r.filter.ranges, range.key ≠ m.key) :
    r.lift.draft.clauses.get? m.key = some (.regex (.exact m.value)) := by
  have hclause := Entry.clause?_text_of_key m.value hkey
  rw [FilterQuery.Request.draft_eq_run, entries_lift_eq_append hmatches]
  refine Entry.get?_run_of_last hclause fun later hlater other hother => ?_
  rcases List.mem_append.1 hlater with hmatch | hrange
  · obtain ⟨m', hm', rfl⟩ := List.mem_map.1 hmatch
    exact hafter m' hm' (Entry.key_of_clause?_text hother)
  · obtain ⟨range, hmem, rfl⟩ := List.mem_map.1 hrange
    exact hranges range hmem (Entry.key_of_clause?_range hother)

end

end Legacy

/-- **What the older format is compiled to.** Each clause of such a request is the pattern of a whole
text or a document with no operators but `$gt` and `$lt`. Nothing is reported but skipped entries,
ranges without bounds, faulty patterns and lost clauses, and this of matches and ranges only; what
counts is what is there in the end or was reported as lost. The key and the value of a match in the body
are texts, and null or missing is the empty one. A match is never skipped for its value, so its key is
there if it is not blank, with the pattern of its value unless a later match or a range has the key. -/
theorem compile_older {body : Json} {r : Request} (h : Request.ofJson .v2 body = .ok r) :
    ∃ c, r.compile false = .ok c ∧
      (∀ key v, c.clauses.get? key = some v →
        (∃ s, v = .regex ⟨"^" ++ s ++ "$", "i"⟩) ∨
          ∃ entries, v = .document entries ∧ ∀ e ∈ entries, e.1 = "$gt" ∨ e.1 = "$lt") ∧
      (∀ d ∈ c.diagnostics, (d.category = .equality ∨ d.category = .range) ∧
        (d.reason = .blankKey ∨ d.reason = .missingValue ∨ d.reason = .emptyRange ∨
          (∃ message, d.reason = .invalidPattern message) ∨
            ∃ previous, d.reason = .overwritten previous)) ∧
      c.parsed = c.clauses.size + c.diagnostics.countP Diagnostic.isOverwritten ∧
      r.query.equalities.length = (Legacy.matchItems body).length ∧
      ∀ before item after, Legacy.matchItems body = before ++ item :: after →
        ∃ key value : String,
          (item.part "key" 0 = .string key ∨ item.part "key" 0 = .null ∧ key = "") ∧
          (item.part "value" 1 = .string value ∨ item.part "value" 1 = .null ∧ value = "") ∧
          r.query.equalities[before.length]? = some ⟨key, .string value⟩ ∧
          (Text.isBlank key = false → c.clauses.contains key = true ∧
            ((∀ later ∈ after, later.part "key" 0 ≠ .string key) →
              (∀ range ∈ r.filter.ranges, range.key ≠ key) →
                c.clauses.get? key = some (.regex ⟨"^" ++ value ++ "$", "i"⟩))) := by
  obtain ⟨older, rfl, hequalities, hread⟩ := Request.exists_lift_of_ofJson h
  have holder : ∀ e ∈ older.lift.entries, e.IsOlder := fun e => Legacy.Request.isOlder_of_mem_entries
  have hdraft := older.lift.draft_eq_run
  refine ⟨older.lift.draft.compiled, older.lift.compile_false, ?_, ?_, ?_, ?_, ?_⟩
  · intro key v hget
    rw [Draft.compiled, hdraft] at hget
    rcases Entry.shape_of_get?_run holder hget with ⟨s, rfl⟩ | hdocument
    · exact .inl ⟨s, rfl⟩
    · exact .inr hdocument
  · intro d hd
    obtain ⟨e, he, hof⟩ := older.lift.diagnostics_draft.1 d hd
    constructor
    · rw [hof.category_eq]
      exact (holder e (older.lift.mem_entries_of_mem_entriesOf he)).category
    · rw [Draft.compiled, hdraft] at hd
      rcases Entry.reason_of_mem_diagnostics_run holder hd with hreason | hover
      · exact hreason.imp id (.imp id (.imp id .inl))
      · exact .inr (.inr (.inr (.inr hover)))
  · rw [Draft.compiled, older.lift.parsed_draft_eq_countP, hdraft]
    exact Entry.countP_eq_size_clauses_add_losses holder
  · change (older.query.equalities.map Legacy.Match.lift).length = _
    rw [hequalities, List.length_map, List.length_map]
  · intro before item after hitems
    have hitem := hread item (hitems ▸ List.mem_append_right _ List.mem_cons_self)
    refine ⟨(Legacy.Match.ofItem item).key, (Legacy.Match.ofItem item).value,
      eq_string_or_null (Legacy.Match.key_of_decode hitem),
      eq_string_or_null (Legacy.Match.value_of_decode hitem), ?_, fun hkey => ?_⟩
    · change (older.query.equalities.map Legacy.Match.lift)[before.length]? = _
      rw [hequalities, hitems, List.map_append, List.map_append, List.getElem?_append_right]
      · simp [Legacy.Match.lift]
      · simp
    · have hmatches : older.query.equalities = before.map Legacy.Match.ofItem ++
          Legacy.Match.ofItem item :: after.map Legacy.Match.ofItem := by
        rw [hequalities, hitems, List.map_append, List.map_cons]
      refine ⟨Legacy.Request.contains_draft_lift hmatches hkey, fun hlater hranges => ?_⟩
      refine Legacy.Request.get?_draft_lift hmatches hkey ?_ ?_
      · intro m hm hsame
        obtain ⟨other, hother, rfl⟩ := List.mem_map.1 hm
        have hdecode := hread other
          (hitems ▸ List.mem_append_right _ (List.mem_cons_of_mem _ hother))
        rcases eq_string_or_null (Legacy.Match.key_of_decode hdecode) with htext | ⟨-, hempty⟩
        · exact hlater other hother (hsame ▸ htext)
        · rw [← hsame, hempty] at hkey
          cases hkey
      · exact fun range hrange => hranges range.lift (List.mem_map_of_mem hrange)

end Library

/-- Values that are null, missing or there, a key that is asked for twice, and bounds the older format
does not know. -/
def olderBody : Json := .object [
  ("query", .object [("match", .array [
    .object [("key", .string "name"), ("value", .null)],
    .object [("key", .string "state")],
    .object [("key", .string "name")],
    .object [("value", .string "lost")]])]),
  ("filter", .object [("range", .array [
    .object [("key", .string "age"),
      ("value", .object [("gt", .number (.int 18)), ("gte", .number (.int 18))])]])])]

def olderRequest : Legacy.Request where
  query := { equalities := [⟨"name", ""⟩, ⟨"state", ""⟩, ⟨"name", ""⟩, ⟨"", "lost"⟩] }
  filter := { ranges := [⟨"age", some { gt := some (.number (.int 18)) }⟩] }

theorem compile_older_olderBody :
    ∃ c, Request.ofJson .v2 olderBody = .ok olderRequest.lift ∧
      olderRequest.lift.compile false = .ok c ∧
      c.parsed = c.clauses.size + c.diagnostics.countP Diagnostic.isOverwritten ∧
      c.parsed = 4 ∧ c.clauses.get? "name" = some (.regex ⟨"^$", "i"⟩) := by
  have hread : Request.ofJson .v2 olderBody = .ok olderRequest.lift := rfl
  obtain ⟨c, hc, -, -, hparsed, -, hmatch⟩ := compile_older hread
  have hlast : Legacy.matchItems olderBody =
      [.object [("key", .string "name"), ("value", .null)], .object [("key", .string "state")]] ++
        .object [("key", .string "name")] :: [.object [("value", .string "lost")]] := rfl
  obtain ⟨key, value, -, -, hmember, hfound⟩ := hmatch _ _ _ hlast
  cases hmember
  obtain ⟨-, hget⟩ := hfound (by decide)
  have hlater : ∀ later ∈ [Json.object [("value", .string "lost")]],
      later.part "key" 0 ≠ .string "name" := by
    intro later hmem heq
    rw [List.mem_singleton.1 hmem] at heq
    change Json.null = .string "name" at heq
    cases heq
  refine ⟨c, hread, hc, hparsed, ?_, hget hlater (by decide)⟩
  cases hc
  decide +kernel

end FilterQuery
