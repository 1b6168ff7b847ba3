import FilterQuery.Proofs.Legibility
import FilterQuery.Proofs.OutputLanguage
import FilterQuery.Regex.Engine

/-!
# Rendered documents can be told apart

Users choose keys, and they may choose those of a rendered pattern. Still no document that a request
without ranges is compiled to can be taken for another one. What is written under a name that is no
operator is never a text, at whatever depth, so nothing but a pattern is rendered like one; and as long
as floats are finite nothing is rendered as a null.

So the documents are legible, and the rest is a fact about rendering alone.
-/

namespace FilterQuery

open QueryValue (Legible)

namespace RequestValue

mutual

def floats : RequestValue → List Float
  | .float x => [x]
  | .pair _ value => floats value
  | .array items => itemFloats items
  | _ => []

def itemFloats : List RequestValue → List Float
  | [] => []
  | item :: rest => floats item ++ itemFloats rest

end

theorem legible_ofDocument {doc : QueryDocument}
    (hparts : ∀ e ∈ doc.entries, WrittenPart (some e.1) e.2)
    (h : ∀ e ∈ doc.entries, Legible e.2) : Legible (.ofDocument doc) := by
  refine .document doc.ascending (fun e he s hs => ?_) h
  have hpart := hparts e he
  rw [hs] at hpart
  obtain ⟨key, hkey, hoperator⟩ := hpart.isOperator_of_string
  cases hkey
  exact hoperator

theorem legible_operator {key : String} {value : QueryValue} (hpart : WrittenPart (some key) value)
    (h : Legible value) : Legible (.operator key value) := by
  change Legible (.ofDocument (KeyMap.empty.insert key value))
  refine legible_ofDocument (fun e he => ?_) fun e he => ?_
  · rw [List.mem_singleton.1 he]
    exact hpart
  · rw [List.mem_singleton.1 he]
    exact h

mutual

theorem legible_of_meaning {place : Place} {v : RequestValue} {q : QueryValue}
    (hfinite : ∀ x ∈ v.floats, x.isFinite = true) (h : v.meaning place = some q) : Legible q := by
  cases v with
  | null => cases h
  | bool b =>
      cases h
      exact .bool b
  | int n =>
      cases h
      exact .int n
  | float x =>
      cases h
      exact .float (hfinite x (List.mem_singleton.2 rfl))
  | string s =>
      cases h
      cases place with
      | field => exact .regex _
      | operand => exact .string s
  | pair key value =>
      rw [meaning] at h
      rw [floats] at hfinite
      obtain ⟨inner, hinner, rfl⟩ := Option.map_eq_some_iff.1 h
      exact legible_operator (.under (written_of_meaning hinner)) (legible_of_meaning hfinite hinner)
  | array items =>
      cases place with
      | field =>
          simp only [meaning] at h
          split at h
          · cases h
          · cases h
            have hwritten : ∀ e ∈ (mergedWith .empty items).entries, Written (.under e.1) e.2 :=
              written_of_mem_mergedWith items fun e he => absurd he List.not_mem_nil
            have hlegible : ∀ e ∈ (mergedWith .empty items).entries, Legible e.2 :=
              legible_of_mem_mergedWith items hfinite fun e he => absurd he List.not_mem_nil
            exact legible_ofDocument (fun e he => .under (hwritten e he)) hlegible
      | operand =>
          cases h
          exact .array (legible_of_mem_meanings items hfinite)
  | unsupported raw => cases h

theorem legible_of_mem_mergedWith (items : List RequestValue) {doc : QueryDocument}
    (hfinite : ∀ x ∈ itemFloats items, x.isFinite = true)
    (hdoc : ∀ e ∈ doc.entries, Legible e.2) : ∀ e ∈ (mergedWith doc items).entries, Legible e.2 := by
  cases items with
  | nil =>
      rw [mergedWith]
      exact hdoc
  | cons item rest =>
      rw [itemFloats, List.forall_mem_append] at hfinite
      cases item with
      | pair key value =>
          rw [mergedWith]
          rw [floats] at hfinite
          cases hmeaning : value.meaning (.under key) with
          | none => exact legible_of_mem_mergedWith rest hfinite.2 hdoc
          | some q =>
              refine legible_of_mem_mergedWith rest hfinite.2 fun e he => ?_
              rcases mem_insertEntry he with rfl | he
              · exact legible_of_meaning hfinite.1 hmeaning
              · exact hdoc e he
      | _ =>
          rw [mergedWith]
          · exact legible_of_mem_mergedWith rest hfinite.2 hdoc
          · simp

theorem legible_of_mem_meanings (items : List RequestValue)
    (hfinite : ∀ x ∈ itemFloats items, x.isFinite = true) : ∀ q ∈ meanings items, Legible q := by
  cases items with
  | nil =>
      rw [meanings]
      exact fun q hq => absurd hq List.not_mem_nil
  | cons item rest =>
      rw [itemFloats, List.forall_mem_append] at hfinite
      intro q hq
      rw [meanings] at hq
      cases hmeaning : item.meaning .field with
      | none =>
          rw [hmeaning] at hq
          exact legible_of_mem_meanings rest hfinite.2 q hq
      | some inner =>
          rw [hmeaning] at hq
          rcases List.mem_cons.1 hq with rfl | hq
          · exact legible_of_meaning hfinite.1 hmeaning
          · exact legible_of_mem_meanings rest hfinite.2 q hq

end

theorem legible_of_element? {v : RequestValue} {q : QueryValue}
    (hfinite : ∀ x ∈ v.floats, x.isFinite = true) (h : v.element? = some q) : Legible q := by
  cases v with
  | string s => cases h; exact .regex _
  | int n => cases h; exact .int n
  | float x => cases h; exact .float (hfinite x (List.mem_singleton.2 rfl))
  | bool b => cases h; exact .bool b
  | _ => cases h

end RequestValue

/-- The floats among the values of an entry; bounds of ranges are not looked at. -/
def Entry.floats : Entry → List Float
  | .equality m => m.value.floats
  | .element e => e.value.flatMap fun m => m.value.floats
  | .membership _ m => (m.value.getD []).flatMap RequestValue.floats
  | _ => []

def Request.floats (r : Request) : List Float := r.entries.flatMap Entry.floats

theorem Match.legible_of_clause {m : Match} {q : QueryValue}
    (hfinite : ∀ x ∈ m.value.floats, x.isFinite = true) (h : m.clause.1 = some q) : Legible q := by
  obtain ⟨key, value⟩ := m
  cases value with
  | pair k inner =>
      rw [clause_pair] at h
      rw [RequestValue.floats] at hfinite
      simp only at h
      split at h
      · obtain ⟨v, hv, rfl⟩ := Option.map_eq_some_iff.1 h
        exact RequestValue.legible_operator (.under (RequestValue.written_of_meaning hv))
          (RequestValue.legible_of_meaning hfinite hv)
      · exact RequestValue.legible_of_meaning hfinite h
  | _ =>
      rw [(clause_of_not_isPair id).2] at h
      have hmeaning : RequestValue.meaning .field _ = some q := h
      exact RequestValue.legible_of_meaning hfinite hmeaning

section Library

variable [RegexLibrary]

namespace Entry

theorem legible_of_clause?_equality {m : Match} {key : String} {v : QueryValue}
    (hfinite : ∀ x ∈ m.value.floats, x.isFinite = true)
    (h : (Entry.equality m).clause? = some (key, v)) : Legible v := by
  rw [clause?] at h
  split at h
  · cases h
  · obtain ⟨q, hq, heq⟩ := Option.map_eq_some_iff.1 h
    cases heq
    exact m.legible_of_clause hfinite hq

theorem legible_nested {e : ElemMatch}
    (hfinite : ∀ x ∈ (Entry.element e).floats, x.isFinite = true) :
    Legible (.ofDocument e.nested.clauses) := by
  refine RequestValue.legible_ofDocument
    (fun c hc => .field _ (ElemMatch.written_of_mem_nested hc).2) fun c hc => ?_
  rw [e.nested_eq_run] at hc
  obtain ⟨entry, hentry, hclause⟩ := exists_of_get?_run (KeyMap.get?_eq_some_iff.2 hc)
  obtain ⟨m, hm, rfl⟩ := List.mem_map.1 hentry
  exact legible_of_clause?_equality
    (fun x hx => hfinite x (List.mem_flatMap.2 ⟨m, hm, hx⟩)) hclause

theorem legible_of_clause? {e : Entry} {key : String} {v : QueryValue}
    (hrange : ∀ r, e ≠ .range r) (hfinite : ∀ x ∈ e.floats, x.isFinite = true)
    (h : e.clause? = some (key, v)) : Legible v := by
  cases e with
  | equality m => exact legible_of_clause?_equality hfinite h
  | substring l =>
      rw [clause?] at h
      split at h
      · cases h
      · cases h
        exact .regex _
  | element e =>
      rw [clause?] at h
      split at h
      · cases h
      · cases h
        refine RequestValue.legible_operator (.elements fun c hc => ?_) (legible_nested hfinite)
        exact (ElemMatch.written_of_mem_nested hc).2
  | range r => exact absurd rfl (hrange r)
  | membership q m =>
      rw [clause?] at h
      split at h
      · cases h
      · obtain ⟨values, hvalues, heq⟩ := Option.map_eq_some_iff.1 h
        cases heq
        have hitems : ∀ item ∈ values.filterMap RequestValue.element?,
            Written .field item ∧ Legible item := by
          intro item hitem
          obtain ⟨value, hvalue, helement⟩ := List.mem_filterMap.1 hitem
          refine ⟨RequestValue.written_of_element? helement,
            RequestValue.legible_of_element? (fun x hx => hfinite x ?_) helement⟩
          rw [floats, hvalues]
          exact List.mem_flatMap.2 ⟨value, hvalue, hx⟩
        refine RequestValue.legible_operator (.under ?_) (.array fun item hitem => (hitems item hitem).2)
        rw [q.under_operator]
        exact .list _ fun item hitem => (hitems item hitem).1

end Entry

/-- A document that a request without ranges is compiled to can be read off its rendering. -/
theorem Request.legible_draft {r : Request} (hranges : r.filter.ranges = [])
    (hfinite : ∀ x ∈ r.floats, x.isFinite = true) : Legible (.ofDocument r.draft.clauses) := by
  refine .document r.draft.clauses.ascending (fun c hc s hs => ?_) fun c hc => ?_
  · have hclause := (Request.isWritten_draft hranges c hc).2
    rw [hs] at hclause
    obtain ⟨key, hkey, -⟩ := (WrittenPart.clause hclause).isOperator_of_string
    cases hkey
  · rw [Request.draft_eq_run] at hc
    obtain ⟨e, he, hclause⟩ := Entry.exists_of_get?_run (KeyMap.get?_eq_some_iff.2 hc)
    refine Entry.legible_of_clause? (fun range heq => ?_)
      (fun x hx => hfinite x (List.mem_flatMap.2 ⟨e, he, hx⟩)) hclause
    rw [Request.entries_eq, hranges, heq] at he
    simp at he

/-- **Rendered documents can be told apart.** Two requests without ranges whose floats are all finite
are compiled to documents that are rendered alike if and only if they are alike themselves, however
floats are compared; and if they are compared one by one, if and only if they are equal. -/
theorem rendering_is_unambiguous {r q : Request} (hr : r.filter.ranges = [])
    (hq : q.filter.ranges = []) (hrfinite : ∀ x ∈ r.floats, x.isFinite = true)
    (hqfinite : ∀ x ∈ q.floats, x.isFinite = true) :
    ∃ c c', r.compile false = .ok c ∧ q.compile false = .ok c' ∧
      (∀ same : Float → Float → Prop,
        c.clauses.toJson.Alike same c'.clauses.toJson ↔ c.clauses.Alike same c'.clauses) ∧
      (c.clauses.toJson.Alike (· = ·) c'.clauses.toJson ↔ c.clauses = c'.clauses) := by
  have hlegible := Request.legible_draft hr hrfinite
  have hlegible' := Request.legible_draft hq hqfinite
  have hsame : ∀ same : Float → Float → Prop,
      r.draft.clauses.toJson.Alike same q.draft.clauses.toJson ↔
        r.draft.clauses.Alike same q.draft.clauses := fun same =>
    ⟨QueryValue.alike_of_toJson_alike hlegible hlegible',
      QueryValue.toJson_alike_of_alike hlegible hlegible'⟩
  refine ⟨r.draft.compiled, q.draft.compiled, r.compile_false, q.compile_false, hsame, ?_⟩
  refine (hsame (· = ·)).trans ⟨fun halike => ?_, fun heq => ?_⟩
  · have hdocument := QueryValue.eq_of_alike hlegible hlegible' halike
    exact KeyMap.eq_of_entries_eq (QueryValue.document.inj hdocument)
  · have hcompiled : r.draft.clauses = q.draft.clauses := heq
    rw [QueryDocument.Alike, ← hcompiled]
    exact hlegible.alike_refl

end Library

/-- A text, which is compiled to a pattern, and a float. -/
def patternRequest : Request where
  query := { equalities := [⟨"a", .string "x"⟩, ⟨"n", .float 1.5⟩] }

/-- Pairs with the names of a rendered pattern in the place of the text. -/
def mimicRequest : Request where
  query :=
    { equalities :=
        [⟨"a", .array [.pair "$regularExpression"
            (.array [.pair "pattern" (.string "^x$"), .pair "options" (.string "i")])]⟩,
          ⟨"n", .float 1.5⟩] }

theorem rendering_is_unambiguous_mimicRequest :
    (∀ x ∈ patternRequest.floats, x.isFinite = true) ∧
      (∀ x ∈ mimicRequest.floats, x.isFinite = true) ∧
      ∃ c c', patternRequest.compile false = .ok c ∧ mimicRequest.compile false = .ok c' ∧
        ¬ c.clauses.toJson.Alike (· = ·) c'.clauses.toJson := by
  have hfinite : ∀ x ∈ patternRequest.floats, x.isFinite = true := by decide
  have hfinite' : ∀ x ∈ mimicRequest.floats, x.isFinite = true := by decide
  obtain ⟨c, c', hc, hc', -, hsame⟩ := rendering_is_unambiguous rfl rfl hfinite hfinite'
  refine ⟨hfinite, hfinite', c, c', hc, hc', fun halike => ?_⟩
  cases hc
  cases hc'
  have hvalue := congrArg (fun doc => (KeyMap.get? doc "a").map fun v => v.regex?.isSome)
    (hsame.1 halike)
  exact absurd hvalue (by decide +kernel)

end FilterQuery
