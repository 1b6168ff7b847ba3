import FilterQuery.Proofs.RecordOrder
import Mathlib.Data.List.Forall2
import Mathlib.Data.List.Nodup
import Mathlib.Logic.Relation

/-!
# What a body says, and how it says it

The same request can be written in many ways. The members of a record may come in any order, with unknown
ones among them; a null member may as well be missing; a record may be an array of its values. None of
this is seen by the decoder, at whatever depth of the body it is done and however often.

A `Shape` tells where the records of a body are. Only there the presentation is free: what stands in a
plain place is a text, a number or a value that is kept as it came.
-/

namespace FilterQuery

/-- What stands in a place of a body. -/
inductive Shape where
  | plain
  | list (item : Shape)
  /-- A record with its fields, in the order of their declaration. -/
  | record (fields : List (String × Shape))

/-- A record with a key and a value. -/
def Shape.clause (value : Shape) : Shape := .record [("key", .plain), ("value", value)]

open Decoder

/-- One change of presentation, in the place itself or somewhere inside. The objects that are compared
as a whole name each of their members once. -/
inductive Restated : Shape → Json → Json → Prop where
  | permuted {fields : List (String × Shape)} {object object' : List (String × Json)}
      (hdistinct : (object.map Prod.fst).Nodup) (hperm : object.Perm object') :
      Restated (.record fields) (.object object) (.object object')
  /-- A member that the record does not declare. -/
  | unknown {fields : List (String × Shape)} {first second : List (String × Json)} {name : String}
      {content : Json} (hname : ∀ f ∈ fields, f.1 ≠ name) :
      Restated (.record fields) (.object (first ++ second))
        (.object (first ++ (name, content) :: second))
  /-- A null under a name that is not there yet. -/
  | null {fields : List (String × Shape)} {first second : List (String × Json)} {name : String}
      (hdistinct : ((first ++ (name, Json.null) :: second).map Prod.fst).Nodup) :
      Restated (.record fields) (.object (first ++ second)) (.object (first ++ (name, .null) :: second))
  /-- The array of the fields, with null for those that are missing; nulls at its end can be left out. -/
  | listed {fields : List (String × Shape)} {object : List (String × Json)} {items : List Json}
      (count : Nat) (hdistinct : (object.map Prod.fst).Nodup)
      (hitems : items ++ List.replicate count .null = fields.map fun f => contentOf object f.1) :
      Restated (.record fields) (.object object) (.array items)
  | inField {fields : List (String × Shape)} (first second : List (String × Json)) {name : String}
      {shape : Shape} {v w : Json} (hfield : (name, shape) ∈ fields) (h : Restated shape v w) :
      Restated (.record fields) (.object (first ++ (name, v) :: second))
        (.object (first ++ (name, w) :: second))
  | inItem {item : Shape} (first second : List Json) {v w : Json} (h : Restated item v w) :
      Restated (.list item) (.array (first ++ v :: second)) (.array (first ++ w :: second))

namespace Decoder

variable {α σ : Type}

def Respects (d : Decoder α) (shape : Shape) : Prop :=
  ∀ v w, Restated shape v w → SameValue (d v) (d w)

def Member.Respects (m : Member σ) (shape : Shape) : Prop :=
  ∀ v w, Restated shape v w → ∀ s, SameValue (m.set v s) (m.set w s)

@[simp] theorem set_textMember_null (name : String) (put : String → σ → σ) (s : σ) :
    (textMember name put).set .null s = .ok (put "" s) := rfl

@[simp] theorem set_listMember_null (name : String) (item : Decoder α) (put : List α → σ → σ)
    (s : σ) : (listMember name item put).set .null s = .ok (put [] s) := rfl

@[simp] theorem set_member_orDefault_null (name : String) (x : α) (d : Decoder α) (put : α → σ → σ)
    (s : σ) : (member name (orDefault x d) put).set .null s = .ok (put x s) := rfl

@[simp] theorem set_member_optional_null (name : String) (d : Decoder α) (put : Option α → σ → σ)
    (s : σ) : (member name (optional d) put).set .null s = .ok (put none s) := rfl

theorem Member.respects_plain (m : Member σ) : m.Respects .plain := by
  intro v w h
  cases h

theorem respects_member {name : String} {d : Decoder α} {put : α → σ → σ} {shape : Shape}
    (h : Respects d shape) : (member name d put).Respects shape :=
  fun v w hvw s => (h v w hvw).map fun x => put x s

/-- What is restated is no null, before or after. -/
theorem respects_orDefault {d : Decoder α} {shape : Shape} (x : α) (h : Respects d shape) :
    Respects (orDefault x d) shape := by
  intro v w hvw
  have hsame := h v w hvw
  cases hvw with
  | _ => exact hsame

theorem respects_optional {d : Decoder α} {shape : Shape} (h : Respects d shape) :
    Respects (optional d) shape := by
  intro v w hvw
  have hsame := (h v w hvw).map some
  cases hvw with
  | _ => exact hsame

theorem respects_list {d : Decoder α} {shape : Shape} (h : Respects d shape) :
    Respects (list d) (.list shape) := by
  intro v w hvw
  cases hvw with
  | @inItem _ first second v w hvw =>
      change SameValue ((first ++ v :: second).mapM d) ((first ++ w :: second).mapM d)
      induction first with
      | nil =>
          rw [List.nil_append, List.nil_append, mapM_cons, mapM_cons]
          exact (h v w hvw).bind fun x => .refl _
      | cons item rest ih =>
          rw [List.cons_append, List.cons_append, mapM_cons, mapM_cons]
          exact SameValue.bind (.refl _) fun x => ih.bind fun xs => .refl _

theorem respects_listMember {name : String} {item : Decoder α} {put : List α → σ → σ}
    {shape : Shape} (h : Respects item shape) :
    (listMember name item put).Respects (.list shape) :=
  respects_member (respects_orDefault [] (respects_list h))

/-- The fields of a shape are the members that are read, each without regard to its presentation. -/
def Declares (fields : List (String × Shape)) (known : List (Member σ)) : Prop :=
  List.Forall₂ (fun f m => f.1 = m.name ∧ m.Respects f.2) fields known

section Records

variable {fields : List (String × Shape)} {known : List (Member σ)}

theorem Declares.map_name_eq (h : Declares fields known) :
    fields.map Prod.fst = known.map Member.name := by
  induction h with
  | nil => rfl
  | cons hfield _ ih => rw [List.map_cons, List.map_cons, hfield.1, ih]

theorem Declares.map_contentOf_eq (h : Declares fields known) (object : List (String × Json)) :
    fields.map (fun f => contentOf object f.1) = known.map fun m => contentOf object m.name := by
  have hnames := congrArg (List.map (contentOf object)) h.map_name_eq
  rwa [List.map_map, List.map_map] at hnames

theorem Declares.sameValue_readMember (h : Declares fields known)
    (hdistinct : (known.map Member.name).Nodup) {name : String} {shape : Shape} {v w : Json}
    (hfield : (name, shape) ∈ fields) (hvw : Restated shape v w) (s : σ) :
    SameValue (readMember known (name, v) s) (readMember known (name, w) s) := by
  induction h with
  | nil => exact absurd hfield List.not_mem_nil
  | @cons f m restFields rest hm hrest ih =>
      obtain ⟨hnot, hdistinctRest⟩ := List.nodup_cons.1 hdistinct
      by_cases hname : name = m.name
      · have hhead : (name, shape) = f := by
          rcases List.mem_cons.1 hfield with heq | hlater
          · exact heq
          · have hlaterName : name ∈ restFields.map Prod.fst := List.mem_map_of_mem hlater
            rw [Declares.map_name_eq hrest, hname] at hlaterName
            exact absurd hlaterName hnot
        rw [readMember_cons_of_eq hname, readMember_cons_of_eq hname]
        exact hm.2 v w (hhead ▸ hvw) s
      · have hlater : (name, shape) ∈ restFields := by
          rcases List.mem_cons.1 hfield with heq | hlater
          · exact absurd ((congrArg Prod.fst heq).trans hm.1) hname
          · exact hlater
        rw [readMember_cons_of_ne hname, readMember_cons_of_ne hname]
        exact ih hdistinctRest hlater

theorem contentOf_append_null {first second : List (String × Json)} {name : String}
    (hdistinct : ((first ++ (name, Json.null) :: second).map Prod.fst).Nodup) (n : String) :
    contentOf (first ++ second) n = contentOf (first ++ (name, .null) :: second) n := by
  by_cases hn : n = name
  · have hmissing : (first ++ second).lookup n = none := by
      rw [List.lookup_eq_none_iff]
      intro e he
      have hnot := (List.nodup_middle.1 (List.map_append ▸ hdistinct))
      rw [← List.map_append, List.nodup_cons] at hnot
      exact bne_iff_ne.2 fun heq => hnot.1 (List.mem_map.2 ⟨e, he, heq.symm.trans hn⟩)
    have hthere : (first ++ (name, Json.null) :: second).lookup n = some .null :=
      (lookup_eq_some_iff_of_nodup hdistinct).2 (hn ▸ List.mem_append_right _ List.mem_cons_self)
    rw [contentOf, contentOf, hmissing, hthere]
    rfl
  · rw [contentOf, contentOf, List.lookup_append, List.lookup_append, lookup_cons, if_neg hn]

theorem contentOf_perm {object object' : List (String × Json)} (hperm : object.Perm object')
    (hdistinct : (object.map Prod.fst).Nodup) (n : String) :
    contentOf object n = contentOf object' n := by
  have hdistinct' : (object'.map Prod.fst).Nodup := (hperm.map Prod.fst).nodup_iff.1 hdistinct
  have hlookup : object.lookup n = object'.lookup n := by
    ext v
    rw [lookup_eq_some_iff_of_nodup hdistinct, lookup_eq_some_iff_of_nodup hdistinct',
      hperm.mem_iff]
  rw [contentOf, contentOf, hlookup]

theorem respects_record {default : σ} (title : String) (hregular : Regular known default)
    (hfields : Declares fields known) :
    Respects (record title known default) (.record fields) := by
  intro v w hvw
  cases hvw with
  | permuted hdistinct hperm =>
      exact hregular.sameValue_of_contentOf_eq title hdistinct
        ((hperm.map Prod.fst).nodup_iff.1 hdistinct) fun m _ => contentOf_perm hperm hdistinct _
  | @unknown _ first second name content hname =>
      change SameValue (members known (first ++ second) default)
        (members known (first ++ (name, content) :: second) default)
      have hpassed : ∀ s, readMember known (name, content) s = .ok s := by
        intro s
        refine readMember_of_forall_ne fun m hm heq => ?_
        have hmem : name ∈ fields.map Prod.fst := by
          rw [hfields.map_name_eq]
          exact List.mem_map.2 ⟨m, hm, heq.symm⟩
        obtain ⟨f, hf, hfname⟩ := List.mem_map.1 hmem
        exact hname f hf hfname
      rw [members_append, members_append]
      refine SameValue.bind (.refl _) fun s => .of_eq ?_
      rw [members_cons, hpassed]
      rfl
  | @null _ first second name hdistinct =>
      have hfewer : ((first ++ second).map Prod.fst).Nodup := by
        have hmiddle := List.nodup_middle.1 (List.map_append ▸ hdistinct)
        rw [← List.map_append, List.nodup_cons] at hmiddle
        exact hmiddle.2
      exact hregular.sameValue_of_contentOf_eq title hfewer hdistinct
        fun m _ => contentOf_append_null hdistinct _
  | listed count hdistinct hitems =>
      exact hregular.sameValue_listed title hdistinct (hitems.trans (hfields.map_contentOf_eq _))
  | @inField _ first second name shape v w hfield hvw =>
      change SameValue (members known (first ++ (name, v) :: second) default)
        (members known (first ++ (name, w) :: second) default)
      rw [members_append, members_append]
      refine SameValue.bind (.refl _) fun s => ?_
      rw [members_cons, members_cons]
      exact (hfields.sameValue_readMember hregular.distinct hfield hvw s).bind fun _ => .refl _

end Records

/-- A record with a key, whose value is read without regard to its presentation. -/
theorem respects_clause {d : Decoder α} {put : String → σ → σ} {put' : α → σ → σ} {default : σ}
    {value : Shape} (title : String) (hcommute : ∀ x y s, put' y (put x s) = put x (put' y s))
    (hkey : put "" default = default)
    (hnull : (member "value" d put').set .null default = .ok default)
    (hvalue : (member "value" d put').Respects value) :
    Respects (record title [textMember "key" put, member "value" d put'] default)
      (.clause value) := by
  refine respects_record title ⟨?_, ?_, ?_⟩ ?_
  · change ["key", "value"].Nodup
    decide
  · simp [textMember, commute_member hcommute]
  · simp [Untouched, hkey, hnull]
  · exact .cons ⟨rfl, Member.respects_plain _⟩ (.cons ⟨rfl, hvalue⟩ .nil)

end Decoder

def Match.shape : Shape := .clause .plain

def Like.shape : Shape := .clause .plain

def ElemMatch.shape : Shape := .clause (.list Match.shape)

def Bounds.shape : Shape :=
  .record [("gt", .plain), ("lt", .plain), ("gte", .plain), ("lte", .plain)]

def Range.shape : Shape := .clause Bounds.shape

def Membership.shape : Shape := .clause .plain

def QueryPart.shape : Shape :=
  .record [("match", .list Match.shape), ("like", .list Like.shape),
    ("elem_match", .list ElemMatch.shape)]

def FilterPart.shape : Shape :=
  .record [("range", .list Range.shape), ("in", .list Membership.shape),
    ("nin", .list Membership.shape), ("all", .list Membership.shape)]

def SortEntry.shape : Shape := .clause .plain

def Limit.shape : Shape := .record [("rows", .plain), ("offset", .plain)]

def Request.shape : Shape :=
  .record [("query", QueryPart.shape), ("filter", FilterPart.shape),
    ("sort", .list SortEntry.shape), ("limit", Limit.shape), ("data", .plain)]

theorem Match.respects_decode : Respects decode shape :=
  respects_clause _ (fun _ _ _ => rfl) rfl rfl (Member.respects_plain _)

theorem Like.respects_decode : Respects decode shape :=
  respects_clause _ (fun _ _ _ => rfl) rfl rfl (Member.respects_plain _)

theorem ElemMatch.respects_decode : Respects decode shape :=
  respects_clause _ (fun _ _ _ => rfl) rfl rfl (respects_listMember Match.respects_decode)

theorem Bounds.respects_decode : Respects decode shape :=
  respects_record _
    ⟨by decide, by simp [commute_member], by simp [Untouched]⟩
    (.cons ⟨rfl, Member.respects_plain _⟩ (.cons ⟨rfl, Member.respects_plain _⟩
      (.cons ⟨rfl, Member.respects_plain _⟩ (.cons ⟨rfl, Member.respects_plain _⟩ .nil))))

theorem Range.respects_decode : Respects decode shape :=
  respects_clause _ (fun _ _ _ => rfl) rfl rfl
    (respects_member (respects_optional Bounds.respects_decode))

theorem Membership.respects_decode : Respects decode shape :=
  respects_clause _ (fun _ _ _ => rfl) rfl rfl (Member.respects_plain _)

theorem QueryPart.respects_decode : Respects decode shape :=
  respects_record _
    ⟨by decide, by simp [listMember, commute_member], by simp [Untouched]⟩
    (.cons ⟨rfl, respects_listMember Match.respects_decode⟩
      (.cons ⟨rfl, respects_listMember Like.respects_decode⟩
        (.cons ⟨rfl, respects_listMember ElemMatch.respects_decode⟩ .nil)))

theorem FilterPart.respects_decode : Respects decode shape :=
  respects_record _
    ⟨by decide, by simp [listMember, commute_member], by simp [Untouched]⟩
    (.cons ⟨rfl, respects_listMember Range.respects_decode⟩
      (.cons ⟨rfl, respects_listMember Membership.respects_decode⟩
        (.cons ⟨rfl, respects_listMember Membership.respects_decode⟩
          (.cons ⟨rfl, respects_listMember Membership.respects_decode⟩ .nil))))

theorem SortEntry.respects_decode : Respects decode shape :=
  respects_clause _ (fun _ _ _ => rfl) rfl rfl (Member.respects_plain _)

theorem Limit.respects_decode : Respects decode shape :=
  respects_record _
    ⟨by decide, by simp [commute_member], by simp [Untouched]⟩
    (.cons ⟨rfl, Member.respects_plain _⟩ (.cons ⟨rfl, Member.respects_plain _⟩ .nil))

theorem Request.respects_decode : Respects decode shape :=
  respects_record _
    ⟨by decide, by simp [listMember, commute_member], by simp [Untouched]⟩
    (.cons ⟨rfl, respects_member (respects_orDefault _ QueryPart.respects_decode)⟩
      (.cons ⟨rfl, respects_member (respects_orDefault _ FilterPart.respects_decode)⟩
        (.cons ⟨rfl, respects_listMember SortEntry.respects_decode⟩
          (.cons ⟨rfl, respects_member (respects_orDefault _ Limit.respects_decode)⟩
            (.cons ⟨rfl, Member.respects_plain _⟩ .nil)))))

namespace Legacy

def Match.shape : Shape := .clause .plain

def Bounds.shape : Shape := .record [("gt", .plain), ("lt", .plain)]

def Range.shape : Shape := .clause Bounds.shape

def QueryPart.shape : Shape :=
  .record [("match", .list Match.shape), ("match_attributes", .list Match.shape)]

def FilterPart.shape : Shape :=
  .record [("range", .list Range.shape), ("range_attributes", .list Range.shape)]

def Request.shape : Shape :=
  .record [("query", QueryPart.shape), ("filter", FilterPart.shape),
    ("sort", .list SortEntry.shape), ("limit", Limit.shape),
    ("filter_attributes", .list FilterPart.shape)]

theorem Match.respects_decode : Respects decode shape :=
  respects_clause _ (fun _ _ _ => rfl) rfl rfl (Member.respects_plain _)

theorem Bounds.respects_decode : Respects decode shape :=
  respects_record _
    ⟨by decide, by simp [commute_member], by simp [Untouched]⟩
    (.cons ⟨rfl, Member.respects_plain _⟩ (.cons ⟨rfl, Member.respects_plain _⟩ .nil))

theorem Range.respects_decode : Respects decode shape :=
  respects_clause _ (fun _ _ _ => rfl) rfl rfl
    (respects_member (respects_optional Bounds.respects_decode))

theorem QueryPart.respects_decode : Respects decode shape :=
  respects_record _
    ⟨by decide, by simp [listMember, commute_member], by simp [Untouched]⟩
    (.cons ⟨rfl, respects_listMember Match.respects_decode⟩
      (.cons ⟨rfl, respects_listMember Match.respects_decode⟩ .nil))

theorem FilterPart.respects_decode : Respects decode shape :=
  respects_record _
    ⟨by decide, by simp [listMember, commute_member], by simp [Untouched]⟩
    (.cons ⟨rfl, respects_listMember Range.respects_decode⟩
      (.cons ⟨rfl, respects_listMember Range.respects_decode⟩ .nil))

theorem Request.respects_decode : Respects decode shape :=
  respects_record _
    ⟨by decide, by simp [listMember, commute_member], by simp [Untouched]⟩
    (.cons ⟨rfl, respects_member (respects_orDefault _ QueryPart.respects_decode)⟩
      (.cons ⟨rfl, respects_member (respects_orDefault _ FilterPart.respects_decode)⟩
        (.cons ⟨rfl, respects_listMember SortEntry.respects_decode⟩
          (.cons ⟨rfl, respects_member (respects_orDefault _ Limit.respects_decode)⟩
            (.cons ⟨rfl, respects_listMember FilterPart.respects_decode⟩ .nil)))))

end Legacy

def WireVersion.bodyShape : WireVersion → Shape
  | .v2 => Legacy.Request.shape
  | .v3 => Request.shape

/-- One change of presentation of a whole body, which may also be missing. -/
inductive RestatedBody (version : WireVersion) : Json → Json → Prop where
  | restated {v w : Json} (h : Restated version.bodyShape v w) : RestatedBody version v w
  | missing : RestatedBody version .null (.object [])

/-- Bodies that say the same: each comes from the other by changes of presentation. -/
def SameBody (version : WireVersion) : Json → Json → Prop :=
  Relation.EqvGen (RestatedBody version)

namespace Request

theorem sameValue_ofJson_of_restated {version : WireVersion} {v w : Json}
    (h : Restated version.bodyShape v w) :
    SameValue (ofJson version v) (ofJson version w) := by
  cases version with
  | v2 =>
      have hlifted := (Legacy.Request.respects_decode v w h).map Legacy.Request.lift
      cases h with
      | _ => exact hlifted
  | v3 =>
      have hdecoded := Request.respects_decode v w h
      cases h with
      | _ => exact hdecoded

theorem sameValue_ofJson_null (version : WireVersion) :
    SameValue (ofJson version .null) (ofJson version (.object [])) := by
  cases version with
  | v2 => exact .refl _
  | v3 => exact .refl _

end Request

/-- **Decoding does not see presentation.** Bodies that say the same are accepted or refused together,
in either version, and what is accepted is read to the same request. -/
theorem ofJson_eq_ok_iff_of_sameBody {version : WireVersion} {body body' : Json}
    (h : SameBody version body body') (r : Request) :
    Request.ofJson version body = .ok r ↔ Request.ofJson version body' = .ok r := by
  have hsame : SameValue (Request.ofJson version body) (Request.ofJson version body') := by
    induction h with
    | rel v w hvw =>
        cases hvw with
        | restated hvw => exact Request.sameValue_ofJson_of_restated hvw
        | missing => exact Request.sameValue_ofJson_null version
    | refl v => exact .refl _
    | symm v w _ ih => exact ih.symm
    | trans u v w _ _ ih ih' => exact ih.trans ih'
  exact hsame r

/-- An object with a null, unknown members and members out of their order. -/
def namedBody : Json := .object [
  ("comment", .string "draft"),
  ("query", .object [
    ("like", .null),
    ("match", .array [.object [("value", .number (.int 5)), ("note", .bool true),
      ("key", .string "a")]])])]

/-- The same with arrays throughout. -/
def listedBody : Json :=
  .array [.array [.array [.array [.string "a", .number (.int 5)]]]]

theorem sameBody_namedBody : SameBody .v3 namedBody listedBody := by
  let matchObject : Json := .object [("value", .number (.int 5)), ("note", .bool true),
    ("key", .string "a")]
  let matchArray : Json := .array [.string "a", .number (.int 5)]
  let queryObject (m : Json) : Json := .object [("like", .null), ("match", .array [m])]
  let queryArray : Json := .array [.array [matchArray]]
  let body (query : Json) : Json := .object [("comment", .string "draft"), ("query", query)]
  have hmatch : Restated Match.shape matchObject matchArray :=
    .listed 0 (by decide) rfl
  have hquery : Restated QueryPart.shape (queryObject matchArray) queryArray :=
    .listed 2 (by decide) rfl
  have hbody : Restated Request.shape (body queryArray) (.array [queryArray]) :=
    .listed 4 (by decide) rfl
  have hinner : Restated Request.shape (body (queryObject matchObject))
      (body (queryObject matchArray)) :=
    .inField [_] [] List.mem_cons_self
      (.inField [_] [] List.mem_cons_self (.inItem [] [] hmatch))
  have houter : Restated Request.shape (body (queryObject matchArray)) (body queryArray) :=
    .inField [_] [] List.mem_cons_self hquery
  exact .trans _ _ _ (.rel _ _ (.restated hinner))
    (.trans _ _ _ (.rel _ _ (.restated houter)) (.rel _ _ (.restated hbody)))

theorem ofJson_listedBody :
    SameBody .v3 namedBody listedBody ∧
      Request.ofJson .v3 namedBody = .ok { query := { equalities := [⟨"a", .int 5⟩] } } ∧
      Request.ofJson .v3 listedBody = .ok { query := { equalities := [⟨"a", .int 5⟩] } } := by
  have hnamed : Request.ofJson .v3 namedBody =
      .ok { query := { equalities := [⟨"a", .int 5⟩] } } := rfl
  exact ⟨sameBody_namedBody, hnamed,
    (ofJson_eq_ok_iff_of_sameBody sameBody_namedBody _).1 hnamed⟩

end FilterQuery
