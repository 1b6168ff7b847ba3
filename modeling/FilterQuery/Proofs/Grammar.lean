import FilterQuery.Proofs.Meaning

/-!
# The grammar of written values

What a coercion can yield, said without the coercion. Under a field there are scalars, patterns for
whole texts, and documents that are not empty; behind an operator there are scalars, texts, lists of
what stands under fields, and documents of one entry. Below a key the key itself decides which of the
two it is.

The grammar is exact. Every meaning is written (`written_of_meaning`), and everything written is a
meaning (`exists_meaning_eq`): a document under a field is the meaning of a list of pairs, and one
behind an operator that of a single pair.
-/

namespace FilterQuery

/-- What may be written in a place. -/
inductive Written : Place → QueryValue → Prop where
  | bool (place : Place) (b : Bool) : Written place (.bool b)
  | int (place : Place) (n : Int64) : Written place (.int n)
  | float (place : Place) (x : Float) : Written place (.float x)
  | pattern (s : String) : Written .field (.regex (.exact s))
  | text (s : String) : Written .operand (.string s)
  | list (items : List QueryValue) (hitems : ∀ v ∈ items, Written .field v) :
      Written .operand (.array items)
  | document (entries : List (String × QueryValue)) (hne : entries ≠ [])
      (hascending : Ascending entries) (hentries : ∀ e ∈ entries, Written (.under e.1) e.2) :
      Written .field (.document entries)
  | operation (key : String) (value : QueryValue) (hvalue : Written (.under key) value) :
      Written .operand (.document [(key, value)])

theorem written_text (place : Place) (s : String) : Written place (place.text s) := by
  cases place with
  | field => exact .pattern s
  | operand => exact .text s

theorem written_operator (place : Place) {key : String} {value : QueryValue}
    (h : Written (.under key) value) : Written place (.operator key value) := by
  cases place with
  | field =>
      refine .document [(key, value)] (List.cons_ne_nil _ _) (List.pairwise_singleton _ _) ?_
      intro e he
      rw [List.mem_singleton.1 he]
      exact h
  | operand => exact .operation key value h

namespace RequestValue

mutual

theorem written_of_meaning {place : Place} {v : RequestValue} {q : QueryValue}
    (h : v.meaning place = some q) : Written place q := by
  cases v with
  | null => cases h
  | bool b =>
      cases h
      exact .bool place b
  | int n =>
      cases h
      exact .int place n
  | float x =>
      cases h
      exact .float place x
  | string s =>
      cases h
      exact written_text place s
  | pair key value =>
      rw [meaning] at h
      obtain ⟨inner, hinner, rfl⟩ := Option.map_eq_some_iff.1 h
      exact written_operator place (written_of_meaning hinner)
  | array items =>
      cases place with
      | field =>
          simp only [meaning] at h
          split at h
          · cases h
          · next hempty =>
              cases h
              refine .document _ ?_ (mergedWith .empty items).ascending ?_
              · intro hnil
                exact hempty (List.isEmpty_iff.2 hnil)
              · exact written_of_mem_mergedWith items fun e he => absurd he List.not_mem_nil
      | operand =>
          cases h
          exact .list _ (written_of_mem_meanings items)
  | unsupported raw => cases h

theorem written_of_mem_mergedWith (items : List RequestValue) {doc : QueryDocument}
    (hdoc : ∀ e ∈ doc.entries, Written (.under e.1) e.2) :
    ∀ e ∈ (mergedWith doc items).entries, Written (.under e.1) e.2 := by
  cases items with
  | nil =>
      rw [mergedWith]
      exact hdoc
  | cons item rest =>
      cases item with
      | pair key value =>
          rw [mergedWith]
          cases hmeaning : value.meaning (.under key) with
          | none => exact written_of_mem_mergedWith rest hdoc
          | some q =>
              refine written_of_mem_mergedWith rest fun e he => ?_
              rcases mem_insertEntry he with rfl | he
              · exact written_of_meaning hmeaning
              · exact hdoc e he
      | _ =>
          rw [mergedWith]
          · exact written_of_mem_mergedWith rest hdoc
          · simp

theorem written_of_mem_meanings (items : List RequestValue) :
    ∀ q ∈ meanings items, Written .field q := by
  cases items with
  | nil =>
      rw [meanings]
      exact fun q hq => absurd hq List.not_mem_nil
  | cons item rest =>
      intro q hq
      rw [meanings] at hq
      cases hmeaning : item.meaning .field with
      | none =>
          rw [hmeaning] at hq
          exact written_of_mem_meanings rest q hq
      | some inner =>
          rw [hmeaning] at hq
          rcases List.mem_cons.1 hq with rfl | hq
          · exact written_of_meaning hmeaning
          · exact written_of_mem_meanings rest q hq

end

theorem exists_meanings_eq {qs : List QueryValue}
    (h : ∀ q ∈ qs, ∃ v : RequestValue, v.meaning .field = some q) :
    ∃ items, meanings items = qs := by
  induction qs with
  | nil => exact ⟨[], rfl⟩
  | cons q rest ih =>
      obtain ⟨v, hv⟩ := h q List.mem_cons_self
      obtain ⟨items, hitems⟩ := ih fun q' hq' => h q' (List.mem_cons_of_mem _ hq')
      refine ⟨v :: items, ?_⟩
      rw [meanings, hv, hitems]

theorem exists_mergedWith_eq {entries : List (String × QueryValue)}
    (h : ∀ e ∈ entries, ∃ v : RequestValue, v.meaning (.under e.1) = some e.2) :
    ∃ items, ∀ doc : QueryDocument,
      mergedWith doc items = entries.foldl (fun doc e => KeyMap.insert doc e.1 e.2) doc := by
  induction entries with
  | nil => exact ⟨[], fun doc => by rw [mergedWith, List.foldl_nil]⟩
  | cons e rest ih =>
      obtain ⟨v, hv⟩ := h e List.mem_cons_self
      obtain ⟨items, hitems⟩ := ih fun e' he' => h e' (List.mem_cons_of_mem _ he')
      refine ⟨.pair e.1 v :: items, fun doc => ?_⟩
      rw [mergedWith, hv, List.foldl_cons]
      exact hitems _

/-- Everything that is written in a place means something there, and under a field it need not be a
pair, which would move it to another path. -/
theorem exists_meaning_eq {place : Place} {q : QueryValue} (h : Written place q) :
    ∃ v : RequestValue, v.meaning place = some q ∧ (place = .field → ¬ v.IsPair) := by
  induction h with
  | bool place b => exact ⟨.bool b, rfl, fun _ => id⟩
  | int place n => exact ⟨.int n, rfl, fun _ => id⟩
  | float place x => exact ⟨.float x, rfl, fun _ => id⟩
  | pattern s => exact ⟨.string s, rfl, fun _ => id⟩
  | text s => exact ⟨.string s, rfl, fun _ => id⟩
  | list items hitems ih =>
      obtain ⟨values, hvalues⟩ :=
        exists_meanings_eq fun q hq => (ih q hq).imp fun v hv => hv.1
      refine ⟨.array values, ?_, fun _ => id⟩
      rw [meaning, hvalues]
  | document entries hne hascending hentries ih =>
      obtain ⟨items, hitems⟩ :=
        exists_mergedWith_eq fun e he => (ih e he).imp fun v hv => hv.1
      have hmerged : (mergedWith .empty items).entries = entries := by
        rw [hitems]
        exact KeyMap.entries_ofList hascending
      have hempty : (mergedWith .empty items).isEmpty = false := by
        rw [KeyMap.isEmpty, hmerged, List.isEmpty_eq_false_iff]
        exact hne
      refine ⟨.array items, ?_, fun _ => id⟩
      rw [meaning]
      simp only [hempty, Bool.false_eq_true, ↓reduceIte]
      rw [QueryValue.ofDocument, hmerged]
  | operation key value hvalue ih =>
      obtain ⟨v, hv, -⟩ := ih
      refine ⟨.pair key v, ?_, fun hplace => by cases hplace⟩
      rw [meaning, hv]
      rfl

end RequestValue

end FilterQuery
