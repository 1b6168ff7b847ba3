import FilterQuery.Json.Printer
import FilterQuery.Proofs.ByteOrder
import FilterQuery.Proofs.Legibility
import FilterQuery.Proofs.OutputLanguage
import FilterQuery.Proofs.PatternReports

/-!
# Rendered documents are canonical

However a document came about, by insertions, from pairs or from the members of a bound, it holds its keys
in ascending order, and so does every document in it (`Request.ordered_draft`). A rendering goes through
it from top to bottom. What is found in the rendering is therefore rendered from a part of the document at
the same place, or it lies inside of a rendered pattern (`cases_of_within_toJson`), and only there are
names that are not in order.

So documents that are alike are rendered to one text. Floats have to be the same for that: the two zeros
are equal as numbers, and they are written apart (`zeros_are_rendered_apart`).
-/

namespace FilterQuery

/-- A step down into a value: to an item of a list, or to what stands under a name. -/
inductive Descent where
  | item (index : Nat)
  | member (name : String)

/-- What is found in JSON, and the way there. -/
inductive Json.Within (whole : Json) : List Descent → Json → Prop
  | self : Within whole [] whole
  | item {path : List Descent} {items : List Json} {index : Nat} {v : Json}
      (h : Within whole path (.array items)) (hv : items[index]? = some v) :
      Within whole (path ++ [.item index]) v
  | member {path : List Descent} {members : List (String × Json)} {name : String} {v : Json}
      (h : Within whole path (.object members)) (hv : (name, v) ∈ members) :
      Within whole (path ++ [.member name]) v

/-- What is found in a query value, and the way there. -/
inductive QueryValue.Within (whole : QueryValue) : List Descent → QueryValue → Prop
  | self : Within whole [] whole
  | item {path : List Descent} {items : List QueryValue} {index : Nat} {v : QueryValue}
      (h : Within whole path (.array items)) (hv : items[index]? = some v) :
      Within whole (path ++ [.item index]) v
  | member {path : List Descent} {entries : List (String × QueryValue)} {name : String}
      {v : QueryValue} (h : Within whole path (.document entries)) (hv : (name, v) ∈ entries) :
      Within whole (path ++ [.member name]) v

/-- The names of the members ascend, compared by their bytes. -/
def InByteOrder (members : List (String × Json)) : Prop :=
  members.Pairwise fun a b => utf8 a.1 < utf8 b.1

instance (members : List (String × Json)) : Decidable (InByteOrder members) :=
  inferInstanceAs (Decidable (members.Pairwise fun a b => utf8 a.1 < utf8 b.1))

theorem inByteOrder_iff {members : List (String × Json)} :
    InByteOrder members ↔ Ascending members := by
  simp only [InByteOrder, utf8_lt_utf8_iff]

/-- The parts of a pattern, as they are rendered. -/
def Pattern.members (p : Pattern) : List (String × Json) :=
  [("pattern", .string p.source), ("options", .string p.options)]

theorem Pattern.not_inByteOrder_members (p : Pattern) : ¬ InByteOrder p.members := by
  intro h
  have hnames : "pattern" < "options" :=
    List.rel_of_pairwise_cons (inByteOrder_iff.1 h) List.mem_cons_self
  exact absurd hnames (by decide)

namespace QueryValue

theorem mem_toMembers {entries : List (String × QueryValue)} {name : String} {v : Json}
    (h : (name, v) ∈ toMembers entries) : ∃ w, (name, w) ∈ entries ∧ v = w.toJson := by
  induction entries with
  | nil => cases h
  | cons e rest ih =>
      rcases List.mem_cons.1 h with heq | h
      · cases heq
        exact ⟨e.2, List.mem_cons_self, rfl⟩
      · obtain ⟨w, hw, heq⟩ := ih h
        exact ⟨w, List.mem_cons_of_mem e hw, heq⟩

theorem map_fst_toMembers (entries : List (String × QueryValue)) :
    (toMembers entries).map Prod.fst = entries.map Prod.fst := by
  induction entries with
  | nil => rfl
  | cons e rest ih => rw [toMembers, List.map_cons, List.map_cons, ih]

theorem eq_array_of_toJson {v : QueryValue} {items : List Json} (h : v.toJson = .array items) :
    ∃ values, v = .array values ∧ items = toItems values := by
  cases v with
  | array values =>
      cases h
      exact ⟨values, rfl, rfl⟩
  | float x =>
      rw [toJson, Json.ofFloat] at h
      split at h <;> cases h
  | _ => cases h

theorem eq_document_of_toJson {v : QueryValue} {members : List (String × Json)}
    (h : v.toJson = .object members) :
    (∃ entries, v = .document entries ∧ members = toMembers entries) ∨
      ∃ p, v = .regex p ∧ members = [("$regularExpression", .object p.members)] := by
  cases v with
  | document entries =>
      cases h
      exact .inl ⟨entries, rfl, rfl⟩
  | regex p =>
      cases h
      exact .inr ⟨p, rfl, rfl⟩
  | float x =>
      rw [toJson, Json.ofFloat] at h
      split at h <;> cases h
  | _ => cases h

/-- What is found in a rendering is rendered from what is found there in the value, or it is the object
of a pattern, or one of its two texts. -/
theorem cases_of_within_toJson {v : QueryValue} {path : List Descent} {j : Json}
    (h : v.toJson.Within path j) :
    (∃ w, v.Within path w ∧ j = w.toJson) ∨
      (∃ above p, v.Within above (.regex p) ∧
        path = above ++ [.member "$regularExpression"] ∧ j = .object p.members) ∨
      ∃ s, j = .string s := by
  induction h with
  | self => exact .inl ⟨v, .self, rfl⟩
  | item _ hv ih =>
      rcases ih with ⟨w, hw, heq⟩ | ⟨_, _, _, _, heq⟩ | ⟨_, heq⟩
      · obtain ⟨values, rfl, rfl⟩ := eq_array_of_toJson heq.symm
        rw [getElem?_toItems] at hv
        obtain ⟨u, hu, rfl⟩ := Option.map_eq_some_iff.1 hv
        exact .inl ⟨u, .item hw hu, rfl⟩
      · cases heq
      · cases heq
  | member _ hv ih =>
      rcases ih with ⟨w, hw, heq⟩ | ⟨above, p, _, _, heq⟩ | ⟨_, heq⟩
      · rcases eq_document_of_toJson heq.symm with ⟨entries, rfl, rfl⟩ | ⟨p, rfl, rfl⟩
        · obtain ⟨u, hu, rfl⟩ := mem_toMembers hv
          exact .inl ⟨u, .member hw hu, rfl⟩
        · cases List.mem_singleton.1 hv
          exact .inr (.inl ⟨_, p, hw, rfl, rfl⟩)
      · cases heq
        rcases List.mem_cons.1 hv with heq | hv
        · cases heq
          exact .inr (.inr ⟨_, rfl⟩)
        · cases List.mem_singleton.1 hv
          exact .inr (.inr ⟨_, rfl⟩)
      · cases heq

theorem Ordered.of_within {v w : QueryValue} {path : List Descent} (hv : v.Ordered)
    (h : v.Within path w) : w.Ordered := by
  induction h with
  | self => exact hv
  | item _ hitem ih =>
      cases ih with
      | array hitems => exact hitems _ (List.mem_of_getElem? hitem)
  | member _ hentry ih =>
      cases ih with
      | document _ hentries => exact hentries _ hentry

theorem Ordered.ascending_toMembers {entries : List (String × QueryValue)}
    (h : Ordered (.document entries)) : Ascending (toMembers entries) := by
  cases h with
  | document hascending _ =>
      have hnames : ((toMembers entries).map Prod.fst).Pairwise (· < ·) := by
        rw [map_fst_toMembers]
        exact List.pairwise_map.2 hascending
      exact List.pairwise_map.1 hnames

/-- The objects of an ordered value have their names in order, but for those of its patterns. -/
theorem Ordered.inByteOrder_or {v : QueryValue} (hv : v.Ordered) {path : List Descent}
    {members : List (String × Json)} (h : v.toJson.Within path (.object members)) :
    InByteOrder members ∨ ∃ above p, v.Within above (.regex p) ∧
      path = above ++ [.member "$regularExpression"] ∧ members = p.members := by
  rcases cases_of_within_toJson h with ⟨w, hw, heq⟩ | ⟨above, p, hp, hpath, heq⟩ | ⟨_, heq⟩
  · refine .inl (inByteOrder_iff.2 ?_)
    rcases eq_document_of_toJson heq.symm with ⟨entries, rfl, rfl⟩ | ⟨p, rfl, rfl⟩
    · exact (hv.of_within hw).ascending_toMembers
    · exact List.pairwise_singleton _ _
  · cases heq
    exact .inr ⟨above, p, hp, hpath, rfl⟩
  · cases heq

theorem ordered_of_written {place : Place} {v : QueryValue} (h : Written place v) : v.Ordered := by
  induction h with
  | bool _ b => exact .bool b
  | int _ n => exact .int n
  | float _ x => exact .float x
  | pattern s => exact .regex _
  | text s => exact .string s
  | list _ _ ih => exact .array ih
  | document _ _ hascending _ ih => exact .document hascending ih
  | operation key value _ ih =>
      refine .document (List.pairwise_singleton _ _) fun e he => ?_
      rw [List.mem_singleton.1 he]
      exact ih

theorem ordered_operator (op : String) {value : QueryValue} (h : value.Ordered) :
    Ordered (.operator op value) := by
  refine .document (List.pairwise_singleton _ _) fun e he => ?_
  rw [List.mem_singleton.1 he]
  exact h

theorem ordered_of_writtenClause {v : QueryValue} (h : WrittenClause v) : v.Ordered := by
  cases h with
  | value v hv => exact ordered_of_written hv
  | containing s _ => exact .regex _
  | elements sub hsub =>
      exact ordered_operator "$elemMatch"
        (.document sub.ascending fun e he => ordered_of_written (hsub e he).2)

mutual

/-- JSON is put into order when it is taken over. -/
theorem ordered_ofJson : (v : Json) → (ofJson v).Ordered
  | .null => .null
  | .bool b => .bool b
  | .number (.int n) => .int n
  | .number (.large _ _) => .float _
  | .number (.float x _) => .float x
  | .string s => .string s
  | .array items => .array (ordered_ofItems items)
  | .object members => ordered_ofMembers members (.document .nil fun _ he => absurd he List.not_mem_nil)

theorem ordered_ofItems : (items : List Json) → ∀ q ∈ ofItems items, Ordered q
  | [] => fun _ hq => absurd hq List.not_mem_nil
  | item :: rest => List.forall_mem_cons.2 ⟨ordered_ofJson item, ordered_ofItems rest⟩

theorem ordered_ofMembers : (members : List (String × Json)) →
    {entries : List (String × QueryValue)} → Ordered (.document entries) →
      Ordered (.document (ofMembers members entries))
  | [], _, h => h
  | (k, v) :: rest, _, .document hascending hentries => by
      refine ordered_ofMembers rest (.document (insertEntry_ascending k _ hascending) fun e he => ?_)
      rcases mem_insertEntry he with rfl | he
      · exact ordered_ofJson v
      · exact hentries e he

end

end QueryValue

open QueryValue (Ordered)

theorem Bounds.ordered_document (b : Bounds) : Ordered (.ofDocument b.document) := by
  refine .document b.document.ascending fun e he => ?_
  obtain ⟨v, -, -, hv⟩ := exists_of_mem_document he
  rw [hv]
  exact QueryValue.ordered_ofJson v

section Library

variable [RegexLibrary]

theorem Entry.ordered_of_clause? {e : Entry} {key : String} {v : QueryValue}
    (h : e.clause? = some (key, v)) : Ordered v := by
  cases e with
  | range r =>
      rw [clause?] at h
      split at h
      · cases h
      · obtain ⟨bounds, -, heq⟩ := Option.map_eq_some_iff.1 h
        cases heq
        exact bounds.ordered_document
  | _ => exact QueryValue.ordered_of_writtenClause (writtenClause_of_clause? (by simp) h).2

/-- What a request is compiled to is in order at every depth. -/
theorem Request.ordered_draft (r : Request) : Ordered (.ofDocument r.draft.clauses) := by
  refine .document r.draft.clauses.ascending fun c hc => ?_
  rw [Request.draft_eq_run] at hc
  obtain ⟨e, -, hclause⟩ := Entry.exists_of_get?_run (KeyMap.get?_eq_some_iff.2 hc)
  exact Entry.ordered_of_clause? hclause

/-- **Rendered documents are canonical.** In what a request is compiled to and rendered, every object at
every depth has its names in ascending order of their UTF-8 bytes, with one exception that is always one:
the object with the source and the options of a pattern, right under the name of a pattern. And documents
that have the same keys with the same values, whatever order they came in, are rendered to one text. -/
theorem rendered_documents_are_canonical (r : Request) :
    ∃ c, r.compile false = .ok c ∧
      (∀ path members, c.clauses.toJson.Within path (.object members) →
        (¬ InByteOrder members ↔ ∃ above p,
          (QueryValue.ofDocument c.clauses).Within above (.regex p) ∧
            path = above ++ [.member "$regularExpression"] ∧ members = p.members)) ∧
      ∀ q : Request, ∃ c', q.compile false = .ok c' ∧
        (c.clauses.Alike (· = ·) c'.clauses →
          c.clauses.toJson.compact = c'.clauses.toJson.compact) := by
  refine ⟨r.draft.compiled, r.compile_false, fun path members h => ⟨fun hnot => ?_, ?_⟩,
    fun q => ⟨q.draft.compiled, q.compile_false, fun halike => ?_⟩⟩
  · exact (r.ordered_draft.inByteOrder_or h).resolve_left hnot
  · rintro ⟨_, p, -, -, rfl⟩
    exact p.not_inByteOrder_members
  · have heq := QueryValue.document.inj (r.ordered_draft.eq_of_alike q.ordered_draft halike)
    exact congrArg (fun doc : QueryDocument => doc.toJson.compact) (KeyMap.eq_of_entries_eq heq)

end Library

/-- A bound whose members are not in order, behind a text. -/
def scatteredRequest : Request where
  query := { equalities := [⟨"name", .string "x"⟩] }
  filter :=
    { ranges := [⟨"age", some { gt := some (.object [("to", .null), ("from", .number (.int 2))]) }⟩] }

/-- The same with the members in order. -/
def sortedRequest : Request where
  query := { equalities := [⟨"name", .string "x"⟩] }
  filter :=
    { ranges := [⟨"age", some { gt := some (.object [("from", .number (.int 2)), ("to", .null)]) }⟩] }

theorem rendered_documents_are_canonical_scatteredRequest :
    ∃ c c', scatteredRequest.compile false = .ok c ∧ sortedRequest.compile false = .ok c' ∧
      c.clauses.toJson.Within [.member "age", .member "$gt"]
        (.object [("from", .number (.int 2)), ("to", .null)]) ∧
      InByteOrder [("from", .number (.int 2)), ("to", .null)] ∧
      c.clauses.Alike (· = ·) c'.clauses ∧
      c.clauses.toJson.compact = c'.clauses.toJson.compact := by
  obtain ⟨c, hc, horder, htext⟩ := rendered_documents_are_canonical scatteredRequest
  obtain ⟨c', hc', htext⟩ := htext sortedRequest
  cases hc
  cases hc'
  have hwithin : scatteredRequest.draft.clauses.toJson.Within [.member "age", .member "$gt"]
      (.object [("from", .number (.int 2)), ("to", .null)]) :=
    .member (.member .self (.head _)) (.head _)
  have hsame : sortedRequest.draft.clauses = scatteredRequest.draft.clauses := rfl
  have halike : scatteredRequest.draft.clauses.Alike (· = ·) sortedRequest.draft.clauses := by
    rw [hsame]
    exact scatteredRequest.ordered_draft.alike_refl
  have hinOrder : InByteOrder [("from", .number (.int 2)), ("to", .null)] := by
    refine Decidable.byContradiction fun hnot => ?_
    obtain ⟨above, p, -, hpath, -⟩ := (horder _ _ hwithin).1 hnot
    have hlast := congrArg List.getLast? hpath
    simp at hlast
  exact ⟨_, _, scatteredRequest.compile_false, sortedRequest.compile_false, hwithin, hinOrder, halike,
    htext halike⟩

theorem QueryValue.alike_operator {same : Float → Float → Prop} (op : String) {v w : QueryValue}
    (h : v.Alike same w) : Alike same (.operator op v) (.operator op w) := by
  refine .document (fun key => ?_) fun key v' w' hv hw => ?_
  · rw [lookup_cons, lookup_cons]
    split <;> rfl
  · rw [lookup_cons] at hv hw
    split at hv
    · next hkey =>
        rw [if_pos hkey] at hw
        cases hv
        cases hw
        exact h
    · cases hv

def zeroRequest : Request where
  query := { equalities := [⟨"a", .float 0.0⟩] }

def signedZeroRequest : Request where
  query := { equalities := [⟨"a", .float (-0.0)⟩] }

/-- Compared as numbers the two zeros are equal, and so are documents that differ in nothing else. They
are rendered to two texts. -/
theorem zeros_are_rendered_apart :
    ∃ c c', zeroRequest.compile false = .ok c ∧ signedZeroRequest.compile false = .ok c' ∧
      c.clauses.Alike (fun x y => (x == y) = true) c'.clauses ∧
      c.clauses.toJson.compact = "\x7b\"a\":0.0\x7d" ∧
      c'.clauses.toJson.compact = "\x7b\"a\":-0.0\x7d" := by
  refine ⟨_, _, zeroRequest.compile_false, signedZeroRequest.compile_false, ?_, by decide +kernel,
    by decide +kernel⟩
  exact QueryValue.alike_operator "a" (.float (by decide))

end FilterQuery
