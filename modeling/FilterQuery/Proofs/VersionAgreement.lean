import FilterQuery.Compilation
import FilterQuery.Listing
import FilterQuery.Proofs.Records
import FilterQuery.Regex.Engine

/-!
# Where the versions agree

A body that keeps to what both versions know (matches of texts and ranges between two bounds) is read
alike in both of them. Every record of the canonical format follows the lift of its older counterpart
through the members of an object; for a match the relation has to know that the value is still to come,
since without it the older format takes an empty text and the canonical one a null.

The clauses on attributes have no part in this. The canonical format does not know them, so they can be
taken away before a body is read, and what the older one makes of them is not lifted.
-/

namespace FilterQuery

open Decoder

namespace Common

/-- A match whose value is there and is a text. -/
def IsMatch (v : Json) : Prop :=
  (v.IsRecord fun name content => name = "value" → ∃ s, content = .string s) ∧
    ∃ object s, v = .object object ∧ ("value", .string s) ∈ object

/-- Bounds of which none is included in the range. -/
def IsBounds (v : Json) : Prop := v.IsRecord fun name _ => name ≠ "gte" ∧ name ≠ "lte"

def IsRange (v : Json) : Prop := v.IsRecord fun name content => name = "value" → IsBounds content

def IsQuery (v : Json) : Prop :=
  v.IsRecord fun name content =>
    name ≠ "like" ∧ name ≠ "elem_match" ∧ (name = "match" → content.AllItems IsMatch)

def IsFilter (v : Json) : Prop :=
  v.IsRecord fun name content =>
    name ≠ "in" ∧ name ≠ "nin" ∧ name ≠ "all" ∧ (name = "range" → content.AllItems IsRange)

/-- A body that keeps to what both versions know. -/
def IsBody (v : Json) : Prop :=
  v.IsRecord fun name content =>
    (name = "query" → IsQuery content) ∧ (name = "filter" → IsFilter content)

end Common

namespace Legacy

def QueryPart.lift (q : QueryPart) : FilterQuery.QueryPart where
  equalities := q.equalities.map Match.lift

def FilterPart.lift (f : FilterPart) : FilterQuery.FilterPart where
  ranges := f.ranges.map Range.lift

/-- Until its value is read, a match is only known to be given one. -/
theorem Match.follows_decode {v : Json} (hv : Common.IsMatch v) :
    Follows (fun m m' => m' = m.lift) (decode v) (FilterQuery.Match.decode v) := by
  obtain ⟨hrecord, object, s, rfl, hs⟩ := hv
  have hfollows : Follows _ (decode (.object object)) (FilterQuery.Match.decode (.object object)) :=
    follows_record (R := fun rest (m : Match) (m' : FilterQuery.Match) =>
      m'.key = m.key ∧ (m'.value = .string m.value ∨ ∃ s, ("value", .string s) ∈ rest))
      hrecord ?_ ?_
  · intro m hm
    obtain ⟨m', hm', hkey, hvalue⟩ := hfollows m hm
    refine ⟨m', hm', ?_⟩
    obtain ⟨key, value⟩ := m'
    rcases hvalue with hvalue | ⟨s, hs⟩
    · simp only at hkey hvalue
      rw [hkey, hvalue]
      rfl
    · cases hs
  · intro object' hobject
    cases hobject
    exact ⟨rfl, .inr ⟨s, hs⟩⟩
  · intro e rest m m' htext ⟨hkey, hvalue⟩
    -- Under any other name the value is still to come.
    have hlater : e.1 ≠ "value" →
        m'.value = .string m.value ∨ ∃ s, ("value", .string s) ∈ rest := by
      intro hname
      refine hvalue.imp id ?_
      rintro ⟨s, hs⟩
      rcases List.mem_cons.1 hs with rfl | hs
      · exact absurd rfl hname
      · exact ⟨s, hs⟩
    refine follows_readMember_both (Q := fun x y => y = x) ?_ ?_ fun _ => ?_
    · exact fun _ => follows_refl _ _
    · rintro hname x _ rfl
      exact ⟨rfl, hlater (by rw [hname]; decide)⟩
    · refine follows_readMember_both (Q := fun x y => y = .string x) ?_ ?_ fun hname => ?_
      · intro hname
        obtain ⟨s, hs⟩ := htext hname
        rw [hs]
        exact follows_ok rfl
      · exact fun _ x y hxy => ⟨hkey, .inl hxy⟩
      · exact follows_ok ⟨hkey, hlater hname⟩

theorem Bounds.follows_decode {v : Json} (hv : Common.IsBounds v) :
    Follows (fun b b' => b' = b.lift) (decode v) (FilterQuery.Bounds.decode v) := by
  refine follows_record (R := fun _ (b : Bounds) b' => b' = b.lift) hv (fun _ _ => rfl) ?_
  rintro e rest b _ ⟨hgte, hlte⟩ rfl
  have hbound : Follows (fun x y => y = x ∧ x.filter (!·.isNull) = x) (optional raw e.2)
      (optional raw e.2) := by
    cases e.2 with
    | null => exact follows_ok ⟨rfl, rfl⟩
    | _ => exact follows_ok ⟨rfl, rfl⟩
  refine follows_readMember_both (fun _ => hbound) ?_ fun _ => ?_
  · rintro - x _ ⟨rfl, hx⟩
    exact congrArg (fun bound => { b.lift with gt := bound }) hx.symm
  refine follows_readMember_both (fun _ => hbound) ?_ fun _ => ?_
  · rintro - x _ ⟨rfl, hx⟩
    exact congrArg (fun bound => { b.lift with lt := bound }) hx.symm
  exact follows_readMember_right hgte (follows_readMember_right hlte (follows_ok rfl))

theorem Range.follows_decode {v : Json} (hv : Common.IsRange v) :
    Follows (fun r r' => r' = r.lift) (decode v) (FilterQuery.Range.decode v) := by
  refine follows_record (R := fun _ (r : Range) r' => r' = r.lift) hv (fun _ _ => rfl) ?_
  rintro e rest r _ hbounds rfl
  refine follows_readMember_both (fun _ => follows_refl _ _) ?_ fun _ => ?_
  · rintro - x _ rfl
    rfl
  · refine follows_readMember_both
      (fun hname => follows_optional (Bounds.follows_decode (hbounds hname))) ?_ fun _ => ?_
    · rintro - x _ rfl
      rfl
    · exact follows_ok rfl

theorem QueryPart.follows_decode {v : Json} (hv : Common.IsQuery v) :
    Follows (fun q q' => q' = q.lift) (decode v) (FilterQuery.QueryPart.decode v) := by
  refine follows_record (R := fun _ (q : QueryPart) q' => q' = q.lift) hv (fun _ _ => rfl) ?_
  rintro e rest q _ ⟨hlike, helem, hmatch⟩ rfl
  refine follows_readMember_both (fun hname => follows_orDefault rfl
    (follows_list (hmatch hname) fun item => Match.follows_decode)) ?_ fun _ => ?_
  · rintro - x _ rfl
    rfl
  refine follows_readMember_right hlike (follows_readMember_right helem ?_)
  exact follows_readMember_left (fun _ => rfl) (fun _ => rfl) fun _ => follows_ok rfl

theorem FilterPart.follows_decode {v : Json} (hv : Common.IsFilter v) :
    Follows (fun f f' => f' = f.lift) (decode v) (FilterQuery.FilterPart.decode v) := by
  refine follows_record (R := fun _ (f : FilterPart) f' => f' = f.lift) hv (fun _ _ => rfl) ?_
  rintro e rest f _ ⟨hin, hnin, hall, hrange⟩ rfl
  refine follows_readMember_both (fun hname => follows_orDefault rfl
    (follows_list (hrange hname) fun item => Range.follows_decode)) ?_ fun _ => ?_
  · rintro - x _ rfl
    rfl
  refine follows_readMember_right hin
    (follows_readMember_right hnin (follows_readMember_right hall ?_))
  exact follows_readMember_left (fun _ => rfl) (fun _ => rfl) fun _ => follows_ok rfl

/-- What the versions agree on: everything but the data and the version itself. -/
def Request.Agrees (r : Request) (r' : FilterQuery.Request) : Prop :=
  r'.query = r.query.lift ∧ r'.filter = r.filter.lift ∧ r'.sort = r.sort ∧ r'.limit = r.limit

theorem Request.follows_decode {v : Json} (hv : Common.IsBody v) :
    Follows Agrees (decode v) (FilterQuery.Request.decode v) := by
  refine follows_record (R := fun _ => Agrees) hv (fun _ _ => ⟨rfl, rfl, rfl, rfl⟩) ?_
  rintro e rest r r' ⟨hquery, hfilter⟩ hagrees
  obtain ⟨hq, hf, hs, hl⟩ := hagrees
  refine follows_readMember_both (fun hname => follows_orDefault rfl
    (QueryPart.follows_decode (hquery hname))) ?_ fun _ => ?_
  · exact fun _ x y hxy => ⟨hxy, hf, hs, hl⟩
  refine follows_readMember_both (fun hname => follows_orDefault rfl
    (FilterPart.follows_decode (hfilter hname))) ?_ fun _ => ?_
  · exact fun _ x y hxy => ⟨hq, hxy, hs, hl⟩
  refine follows_readMember_both (fun _ => follows_refl _ _) ?_ fun _ => ?_
  · exact fun _ x y hxy => ⟨hq, hf, hxy, hl⟩
  refine follows_readMember_both (fun _ => follows_refl _ _) ?_ fun _ => ?_
  · exact fun _ x y hxy => ⟨hq, hf, hs, hxy⟩
  refine follows_readMember_left (fun _ => ⟨hq, hf, hs, hl⟩) ?_ fun _ => ?_
  · intro hname
    refine readMember_cons_of_ne ?_
    rw [hname]
    decide
  by_cases hname : e.1 = "data"
  · rw [readMember_cons_of_eq hname]
    change Follows Agrees (.ok r) ((optional raw e.2).map fun x => { r' with data := x })
    cases e.2 with
    | null => exact follows_ok ⟨hq, hf, hs, hl⟩
    | _ => exact follows_ok ⟨hq, hf, hs, hl⟩
  · rw [readMember_cons_of_ne hname]
    exact follows_ok ⟨hq, hf, hs, hl⟩

end Legacy

/-- A body without its clauses on attributes. -/
def Json.withoutAttributes (body : Json) : Json :=
  ((body.without "filter_attributes").mapMember "query" (without "match_attributes")).mapMember
    "filter" (without "range_attributes")

namespace Common

theorem isQuery_without (v : Json) : IsQuery (v.without "match_attributes") ↔ IsQuery v :=
  Json.isRecord_without v (by simp)

theorem isFilter_without (v : Json) : IsFilter (v.without "range_attributes") ↔ IsFilter v :=
  Json.isRecord_without v (by simp)

theorem isBody_withoutAttributes (body : Json) : IsBody body.withoutAttributes ↔ IsBody body := by
  rw [IsBody, Json.withoutAttributes, Json.isRecord_mapMember, Json.isRecord_mapMember,
    Json.isRecord_without]
  · rfl
  · simp
  · intro content
    simp [isQuery_without]
  · intro content
    simp [isFilter_without]

end Common

/-- Taking members away keeps what is null apart from what is not. -/
theorem orDefault_without {α : Type} {x : α} {d : Decoder α} {name : String} (v : Json)
    (h : d (v.without name) = d v) : orDefault x d (v.without name) = orDefault x d v := by
  cases v with
  | object object => exact h
  | _ => rfl

theorem QueryPart.decode_without (v : Json) :
    decode (v.without "match_attributes") = decode v :=
  record_without (by decide) _ _ v

theorem FilterPart.decode_without (v : Json) :
    decode (v.without "range_attributes") = decode v :=
  record_without (by decide) _ _ v

theorem Request.decode_withoutAttributes (body : Json) :
    decode body.withoutAttributes = decode body := by
  calc decode body.withoutAttributes
      = decode ((body.without "filter_attributes").mapMember "query"
          (Json.without "match_attributes")) := by
        refine record_mapMember (fun m hm hname v r => ?_) _ _ _
        simp only [List.mem_cons, List.not_mem_nil, or_false] at hm
        rcases hm with rfl | rfl | rfl | rfl | rfl
        case inr.inl => exact member_set_congr (orDefault_without v (FilterPart.decode_without v)) r
        all_goals exact absurd hname (by decide)
    _ = decode (body.without "filter_attributes") := by
        refine record_mapMember (fun m hm hname v r => ?_) _ _ _
        simp only [List.mem_cons, List.not_mem_nil, or_false] at hm
        rcases hm with rfl | rfl | rfl | rfl | rfl
        case inl => exact member_set_congr (orDefault_without v (QueryPart.decode_without v)) r
        all_goals exact absurd hname (by decide)
    _ = decode body := record_without (by decide) _ _ body

namespace Request

theorem ofJson_withoutAttributes (body : Json) :
    ofJson .v3 body.withoutAttributes = ofJson .v3 body := by
  cases body with
  | null => rfl
  | object object => exact decode_withoutAttributes (.object object)
  | _ => rfl

/-- What the versions make of a common body, apart from the data and the version. -/
theorem exists_ofJson_of_isBody {body : Json} {r : Request} (hbody : Common.IsBody body)
    (h : ofJson .v2 body = .ok r) : ∃ r', ofJson .v3 body = .ok r' ∧
      r = { query := r'.query, filter := r'.filter, sort := r'.sort, limit := r'.limit,
            version := .v2 } := by
  cases body with
  | null =>
      cases h
      exact ⟨_, rfl, rfl⟩
  | object object =>
      change (Legacy.Request.decode (.object object)).map Legacy.Request.lift = .ok r at h
      cases hlegacy : Legacy.Request.decode (.object object) with
      | error m =>
          rw [hlegacy] at h
          cases h
      | ok legacy =>
          rw [hlegacy] at h
          cases h
          obtain ⟨r', hr', hquery, hfilter, hsort, hlimit⟩ :=
            Legacy.Request.follows_decode hbody legacy hlegacy
          refine ⟨r', hr', ?_⟩
          rw [hquery, hfilter, hsort, hlimit]
          rfl
  | _ => exact absurd hbody id

theorem compile_congr [RegexLibrary] {r r' : Request} (hquery : r.query = r'.query)
    (hfilter : r.filter = r'.filter) (required : Bool) : r.compile required = r'.compile required := by
  have hentries : r.entriesOf = r'.entriesOf := by
    funext category
    cases category with
    | _ => simp only [entriesOf, hquery, hfilter]
  rw [compile, compile, draft, draft, entries, entries, hentries]

end Request

/-- **The versions agree on their common requests.** A common body that version 2 accepts is accepted
by version 3 with the same clauses, sort entries and limit, so it is compiled to the same result and
listed alike. Another body that differs from it in the clauses on attributes only is read by version 3
to the same request, and by version 2 too if it accepts it. -/
theorem versions_agree [RegexLibrary] {body : Json} {r : Request} (hbody : Common.IsBody body)
    (h : Request.ofJson .v2 body = .ok r) :
    ∃ r' : Request, Request.ofJson .v3 body = .ok r' ∧
      r'.query = r.query ∧ r'.filter = r.filter ∧ r'.sort = r.sort ∧ r'.limit = r.limit ∧
      (∀ required, r'.compile required = r.compile required) ∧
      Listing.ofRequest r' = Listing.ofRequest r ∧
      ∀ other : Json, other.withoutAttributes = body.withoutAttributes →
        Request.ofJson .v3 other = .ok r' ∧
        ∀ q, Request.ofJson .v2 other = .ok q → q = r := by
  obtain ⟨r', hr', rfl⟩ := Request.exists_ofJson_of_isBody hbody h
  refine ⟨r', hr', rfl, rfl, rfl, rfl, Request.compile_congr rfl rfl, rfl, ?_⟩
  intro other hother
  have hread : Request.ofJson .v3 other = .ok r' := by
    rw [← Request.ofJson_withoutAttributes, hother, Request.ofJson_withoutAttributes, hr']
  refine ⟨hread, fun q hq => ?_⟩
  have hcommon : Common.IsBody other := by
    rwa [← Common.isBody_withoutAttributes, hother, Common.isBody_withoutAttributes]
  obtain ⟨q', hq', rfl⟩ := Request.exists_ofJson_of_isBody hcommon hq
  rw [hread] at hq'
  cases hq'
  rfl

def attributedBody : Json := .object [
  ("query", .object [
    ("match", .array [.object [("key", .string "status"), ("note", .bool true),
      ("value", .string "open")]]),
    ("match_attributes", .array [.object [("key", .string "color")]])]),
  ("filter", .object [
    ("range", .array [.object [("key", .string "age"),
      ("value", .object [("gt", .number (.int 18)), ("lt", .null)])]]),
    ("range_attributes", .null)]),
  ("limit", .object [("rows", .number (.int 5))]),
  ("filter_attributes", .array [.object []]),
  ("data", .string "x")]

theorem versions_agree_attributedBody :
    Common.IsBody attributedBody ∧ ∃ r r' : Request,
      Request.ofJson .v2 attributedBody = .ok r ∧ Request.ofJson .v3 attributedBody = .ok r' ∧
      r.query.equalities = [⟨"status", .string "open"⟩] ∧
      r'.query = r.query ∧ r'.filter = r.filter ∧ r'.sort = r.sort ∧ r'.limit = r.limit := by
  have hbody : Common.IsBody attributedBody := by
    simp [attributedBody, Common.IsBody, Common.IsQuery, Common.IsFilter, Common.IsMatch,
      Common.IsRange, Common.IsBounds, Json.IsRecord, Json.AllItems, -Prod.forall]
  obtain ⟨r', hr', hquery, hfilter, hsort, hlimit, -⟩ := versions_agree hbody rfl
  exact ⟨hbody, _, r', rfl, hr', rfl, hquery, hfilter, hsort, hlimit⟩

end FilterQuery
