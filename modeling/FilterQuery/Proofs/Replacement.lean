import FilterQuery.Clause
import FilterQuery.Proofs.RecordOrder
import Mathlib.Data.List.Forall2
import Mathlib.Data.Option.Basic

/-!
# Other JSON in some places

A request has places where any JSON may stand: the values of matches, the elements of a list of values,
the bounds of a range, and the data. `Request.ReplacedAt S` relates two bodies that are alike but for
the JSON in the places of a set `S`. The readers of these places never fail, so a body that is read as a
request still is after the replacement, and the two requests differ in these places only.

Both relations are put together from the same few parts, one for records and one for lists, and so is
the reading. What it takes for each record is that its members carry the one relation to the other.
-/

namespace FilterQuery

section

variable {α β : Type}

/-- The same, unless it may change. -/
def SameUnless (changed : Prop) (x y : α) : Prop := ¬ changed → y = x

theorem SameUnless.refl (changed : Prop) (x : α) : SameUnless changed x x := fun _ => rfl

/-- Lists of one length whose items stand in the relation of their position; the positions from `i` on. -/
inductive Pointwise (R : Nat → α → β → Prop) : Nat → List α → List β → Prop
  | nil (i : Nat) : Pointwise R i [] []
  | cons {i : Nat} {x : α} {y : β} {xs : List α} {ys : List β} (head : R i x y)
      (tail : Pointwise R (i + 1) xs ys) : Pointwise R i (x :: xs) (y :: ys)

theorem Pointwise.refl {R : Nat → α → α → Prop} (hR : ∀ i x, R i x x) (i : Nat) (xs : List α) :
    Pointwise R i xs xs := by
  induction xs generalizing i with
  | nil => exact .nil i
  | cons x rest ih => exact .cons (hR i x) (ih (i + 1))

theorem Pointwise.forall₂ {R : Nat → α → β → Prop} {P : α → β → Prop} (hR : ∀ i x y, R i x y → P x y)
    {i : Nat} {xs : List α} {ys : List β} (h : Pointwise R i xs ys) : xs.Forall₂ P ys := by
  induction h with
  | nil i => exact .nil
  | cons head tail ih => exact .cons (hR _ _ _ head) ih

end

namespace Json

/-- Records with the same members, whose contents stand in the relation of their name. -/
inductive RecordsAlike (declared : List String) (V : String → Json → Json → Prop) : Json → Json → Prop
  | same (v : Json) : RecordsAlike declared V v v
  | object {object other : List (String × Json)}
      (h : object.Forall₂ (fun e e' => e'.1 = e.1 ∧ V e.1 e.2 e'.2) other) :
      RecordsAlike declared V (.object object) (.object other)
  | array {items other : List Json} (hlength : other.length = items.length)
      (h : ∀ t ∈ declared.zip (items.zip other), V t.1 t.2.1 t.2.2) :
      RecordsAlike declared V (.array items) (.array other)

/-- Lists whose items stand in the relation of their position. -/
inductive ListsAlike (V : Nat → Json → Json → Prop) : Json → Json → Prop
  | same (v : Json) : ListsAlike V v v
  | array {items other : List Json} (h : Pointwise V 0 items other) :
      ListsAlike V (.array items) (.array other)

/-- Null is related to nothing but null. -/
def KeepsNull (V : Json → Json → Prop) : Prop := ∀ v v', V v v' → (v = .null ↔ v' = .null)

theorem keepsNull_recordsAlike (declared : List String) (V : String → Json → Json → Prop) :
    KeepsNull (RecordsAlike declared V) := by
  intro v v' h
  cases h with
  | same => rfl
  | object h => simp
  | array hlength h => simp

theorem keepsNull_listsAlike (V : Nat → Json → Json → Prop) : KeepsNull (ListsAlike V) := by
  intro v v' h
  cases h with
  | same => rfl
  | array h => simp

end Json

namespace Decoder

open Json

variable {α β σ : Type} {V : Json → Json → Prop} {R : α → α → Prop} {d : Decoder α}

/-- Where the reader succeeds, it does so on all related JSON, with a related result. -/
def Carries (d : Decoder α) (V : Json → Json → Prop) (R : α → α → Prop) : Prop :=
  ∀ v v', V v v' → Follows R (d v) (d v')

theorem carries_eq (d : Decoder α) : Carries d Eq Eq := by
  rintro v _ rfl x hx
  exact ⟨x, hx, rfl⟩

/-- A reader that never fails can be given anything. -/
theorem carries_sameUnless (hd : ∀ v, ∃ x, d v = .ok x) (changed : Prop) :
    Carries d (SameUnless changed) (SameUnless changed) := by
  intro v v' hv x hx
  obtain ⟨x', hx'⟩ := hd v'
  refine ⟨x', hx', fun hsame => ?_⟩
  rw [hv hsame, hx] at hx'
  exact (Except.ok.inj hx').symm

theorem carries_orDefault {default : α} (hnull : KeepsNull V) (hdefault : R default default)
    (hd : Carries d V R) : Carries (orDefault default d) V R := by
  intro v v' hv
  by_cases h : v = .null
  · rw [(hnull v v' hv).1 h, h]
    exact follows_ok hdefault
  · have h' : v' ≠ .null := fun heq => h ((hnull v v' hv).2 heq)
    have hread : ∀ w : Json, w ≠ .null → orDefault default d w = d w := by
      intro w hw
      cases w with
      | null => exact absurd rfl hw
      | _ => rfl
    rw [hread v h, hread v' h']
    exact hd v v' hv

theorem carries_optional (hnull : KeepsNull V) (hd : Carries d V R) :
    Carries (optional d) V (Option.Rel R) := by
  intro v v' hv
  by_cases h : v = .null
  · rw [(hnull v v' hv).1 h, h]
    exact follows_ok .none
  · have h' : v' ≠ .null := fun heq => h ((hnull v v' hv).2 heq)
    have hread : ∀ w : Json, w ≠ .null → optional d w = (d w).map some := by
      intro w hw
      cases w with
      | null => exact absurd rfl hw
      | _ => rfl
    rw [hread v h, hread v' h']
    exact (hd v v' hv).map fun x x' => .some

section Lists

variable {V : Nat → Json → Json → Prop} {R : Nat → α → α → Prop}
  (hd : ∀ i, Carries d (V i) (R i))

include hd

theorem carries_mapM {i : Nat} {items other : List Json} (h : Pointwise V i items other) :
    Follows (Pointwise R i) (items.mapM d) (other.mapM d) := by
  induction h with
  | nil i => exact follows_ok (.nil i)
  | cons head tail ih =>
      rw [mapM_cons, mapM_cons]
      intro xs hxs
      obtain ⟨x, hx, hxs⟩ := exists_of_bind_eq_ok hxs
      obtain ⟨later, hlater, hxs⟩ := exists_of_bind_eq_ok hxs
      cases hxs
      obtain ⟨x', hx', hR⟩ := hd _ _ _ head x hx
      obtain ⟨later', hlater', hRs⟩ := ih later hlater
      rw [hx', hlater']
      exact ⟨x' :: later', rfl, .cons hR hRs⟩

theorem carries_list (hrefl : ∀ i x, R i x x) :
    Carries (list d) (ListsAlike V) (Pointwise R 0) := by
  intro v v' hv
  cases hv with
  | same => exact fun xs hxs => ⟨xs, hxs, .refl hrefl 0 xs⟩
  | array h => exact carries_mapM hd h

theorem carries_listMember (hrefl : ∀ i x, R i x x) :
    Carries (orDefault [] (list d)) (ListsAlike V) (Pointwise R 0) :=
  carries_orDefault (keepsNull_listsAlike V) (.nil 0) (carries_list hd hrefl)

end Lists

section Records

variable {V : String → Json → Json → Prop} {R : σ → σ → Prop} {known : List (Member σ)}

/-- What a member makes of related JSON and related records are related records. -/
structure Member.Carries (m : Member σ) (V : String → Json → Json → Prop) (R : σ → σ → Prop) :
    Prop where
  follows : ∀ v v' s s', V m.name v v' → R s s' → Follows R (m.set v s) (m.set v' s')

theorem carries_member {name : String} {put : α → σ → σ} {Q : α → α → Prop}
    (hd : Decoder.Carries d (V name) Q)
    (hput : ∀ x x' s s', Q x x' → R s s' → R (put x s) (put x' s')) :
    (member name d put).Carries V R := by
  constructor
  intro v v' s s' hv hs
  exact (hd v v' hv).map fun x x' hx => hput x x' s s' hx hs

variable (hknown : ∀ m ∈ known, m.Carries V R)

include hknown

theorem carries_readMember {e e' : String × Json} {s s' : σ} (hname : e'.1 = e.1)
    (he : V e.1 e.2 e'.2) (hs : R s s') :
    Follows R (readMember known e s) (readMember known e' s') := by
  rw [readMember, readMember, hname]
  cases hfind : known.find? (·.name == e.1) with
  | none => exact follows_ok hs
  | some m =>
      have hfound : m.name = e.1 :=
        beq_iff_eq.1 (List.find?_some (p := fun m : Member σ => m.name == e.1) hfind)
      rw [← hfound] at he
      exact (hknown m (List.mem_of_find?_eq_some hfind)).follows e.2 e'.2 s s' he hs

theorem carries_members {object other : List (String × Json)} {s s' : σ}
    (h : object.Forall₂ (fun e e' => e'.1 = e.1 ∧ V e.1 e.2 e'.2) other) (hs : R s s') :
    Follows R (members known object s) (members known other s') := by
  induction h generalizing s s' with
  | nil => exact follows_ok hs
  | cons he tail ih =>
      rw [members_cons, members_cons]
      intro t ht
      obtain ⟨u, hu, ht⟩ := exists_of_bind_eq_ok ht
      obtain ⟨u', hu', hR⟩ := carries_readMember hknown he.1 he.2 hs u hu
      rw [hu']
      exact ih hR t ht

theorem carries_values {items other : List Json} {s s' : σ} (hlength : other.length = items.length)
    (h : ∀ t ∈ (known.map Member.name).zip (items.zip other), V t.1 t.2.1 t.2.2) (hs : R s s') :
    Follows R (values known items s) (values known other s') := by
  induction known generalizing items other s s' with
  | nil => exact follows_ok hs
  | cons m rest ih =>
      obtain ⟨hm, hrest⟩ := List.forall_mem_cons.1 hknown
      cases items with
      | nil =>
          rw [List.length_eq_zero_iff.1 hlength, values_nil, values_nil]
          exact follows_ok hs
      | cons item items =>
          obtain ⟨item', other, rfl⟩ := List.exists_cons_of_length_eq_add_one hlength
          rw [List.map_cons, List.zip_cons_cons, List.zip_cons_cons, List.forall_mem_cons] at h
          rw [values_cons, values_cons]
          intro t ht
          obtain ⟨u, hu, ht⟩ := exists_of_bind_eq_ok ht
          obtain ⟨u', hu', hR⟩ := hm.follows item item' s s' h.1 hs u hu
          rw [hu']
          exact ih hrest (Nat.succ.inj hlength) h.2 hR t ht

omit hknown in
theorem carries_record {default : σ} (title : String) (hrefl : ∀ s, R s s)
    (hknown : known.Forall (·.Carries V R)) :
    Decoder.Carries (record title known default) (RecordsAlike (known.map Member.name) V) R := by
  have hmembers := List.forall_iff_forall_mem.1 hknown
  intro v v' hv
  cases hv with
  | same => exact fun s hs => ⟨s, hs, hrefl s⟩
  | object h => exact carries_members hmembers h (hrefl default)
  | array hlength h =>
      intro s hs
      obtain ⟨t, ht, hs⟩ := exists_of_bind_eq_ok hs
      obtain ⟨t', ht', hR⟩ := carries_values hmembers hlength h (hrefl default) t ht
      split at hs
      · cases hs
      · next hshort =>
          cases hs
          -- the arrays have one length, so neither has values to spare
          refine ⟨t', ?_, hR⟩
          rw [record, ht', hlength]
          exact if_neg hshort

end Records

end Decoder

open Decoder Json

/-- A place in which a request may have any JSON. Entries and items are counted from zero. -/
inductive Position where
  /-- The value of a match. -/
  | equality (entry : Nat)
  /-- The value of a match for list elements. -/
  | element (entry item : Nat)
  /-- A bound of a range, by its name. -/
  | bound (entry : Nat) (name : String)
  /-- An element of a list of values. -/
  | member (q : Quantifier) (entry item : Nat)
  | data

/-- The same match, but perhaps for its value. -/
structure Match.SameBut (changed : Prop) (m m' : Match) : Prop where
  key : m'.key = m.key
  value : SameUnless changed m.value m'.value

structure ElemMatch.SameBut (changed : Nat → Prop) (e e' : ElemMatch) : Prop where
  key : e'.key = e.key
  value : Pointwise (fun j => Match.SameBut (changed j)) 0 e.value e'.value

structure Bounds.SameBut (changed : String → Prop) (b b' : Bounds) : Prop where
  gt : SameUnless (changed "gt") b.gt b'.gt
  lt : SameUnless (changed "lt") b.lt b'.lt
  gte : SameUnless (changed "gte") b.gte b'.gte
  lte : SameUnless (changed "lte") b.lte b'.lte

structure Range.SameBut (changed : String → Prop) (r r' : Range) : Prop where
  key : r'.key = r.key
  value : Option.Rel (Bounds.SameBut changed) r.value r'.value

structure Membership.SameBut (changed : Nat → Prop) (m m' : Membership) : Prop where
  key : m'.key = m.key
  value : Option.Rel (Pointwise (fun j => SameUnless (changed j)) 0) m.value m'.value

structure QueryPart.SameBut (S : Position → Prop) (q q' : QueryPart) : Prop where
  equalities : Pointwise (fun i => Match.SameBut (S (.equality i))) 0 q.equalities q'.equalities
  substrings : q'.substrings = q.substrings
  elements : Pointwise (fun i => ElemMatch.SameBut fun j => S (.element i j)) 0 q.elements q'.elements

structure FilterPart.SameBut (S : Position → Prop) (f f' : FilterPart) : Prop where
  ranges : Pointwise (fun i => Range.SameBut fun name => S (.bound i name)) 0 f.ranges f'.ranges
  anyOf : Pointwise (fun i => Membership.SameBut fun j => S (.member .anyOf i j)) 0 f.anyOf f'.anyOf
  noneOf :
    Pointwise (fun i => Membership.SameBut fun j => S (.member .noneOf i j)) 0 f.noneOf f'.noneOf
  allOf : Pointwise (fun i => Membership.SameBut fun j => S (.member .allOf i j)) 0 f.allOf f'.allOf

/-- Requests that differ in these places only. -/
structure Request.SameBut (S : Position → Prop) (r r' : Request) : Prop where
  query : r.query.SameBut S r'.query
  filter : r.filter.SameBut S r'.filter
  sort : r'.sort = r.sort
  limit : r'.limit = r.limit
  data : SameUnless (S .data) r.data r'.data
  version : r'.version = r.version

theorem Match.SameBut.refl (changed : Prop) (m : Match) : m.SameBut changed m := ⟨rfl, .refl _ _⟩

theorem ElemMatch.SameBut.refl (changed : Nat → Prop) (e : ElemMatch) : e.SameBut changed e :=
  ⟨rfl, .refl (fun _ => .refl _) _ _⟩

theorem Bounds.SameBut.refl (changed : String → Prop) (b : Bounds) : b.SameBut changed b :=
  ⟨.refl _ _, .refl _ _, .refl _ _, .refl _ _⟩

theorem optionRel_refl {α : Type} {R : α → α → Prop} (hR : ∀ x, R x x) (o : Option α) :
    Option.Rel R o o := by
  cases o with
  | none => exact .none
  | some x => exact .some (hR x)

theorem Range.SameBut.refl (changed : String → Prop) (r : Range) : r.SameBut changed r :=
  ⟨rfl, optionRel_refl (.refl changed) _⟩

theorem Membership.SameBut.refl (changed : Nat → Prop) (m : Membership) : m.SameBut changed m :=
  ⟨rfl, optionRel_refl (.refl (fun _ => .refl _) 0) _⟩

theorem QueryPart.SameBut.refl (S : Position → Prop) (q : QueryPart) : q.SameBut S q :=
  ⟨.refl (fun _ => .refl _) _ _, rfl, .refl (fun _ => .refl _) _ _⟩

theorem FilterPart.SameBut.refl (S : Position → Prop) (f : FilterPart) : f.SameBut S f :=
  ⟨.refl (fun _ => .refl _) _ _, .refl (fun _ => .refl _) _ _, .refl (fun _ => .refl _) _ _,
    .refl (fun _ => .refl _) _ _⟩

theorem Request.SameBut.refl (S : Position → Prop) (r : Request) : r.SameBut S r :=
  ⟨.refl S _, .refl S _, rfl, rfl, .refl _ _, rfl⟩

def Match.ReplacedAt (changed : Prop) : Json → Json → Prop :=
  RecordsAlike ["key", "value"] fun
    | "value" => SameUnless changed
    | _ => Eq

def ElemMatch.ReplacedAt (changed : Nat → Prop) : Json → Json → Prop :=
  RecordsAlike ["key", "value"] fun
    | "value" => ListsAlike fun j => Match.ReplacedAt (changed j)
    | _ => Eq

def Bounds.ReplacedAt (changed : String → Prop) : Json → Json → Prop :=
  RecordsAlike ["gt", "lt", "gte", "lte"] fun name => SameUnless (changed name)

def Range.ReplacedAt (changed : String → Prop) : Json → Json → Prop :=
  RecordsAlike ["key", "value"] fun
    | "value" => Bounds.ReplacedAt changed
    | _ => Eq

def Membership.ReplacedAt (changed : Nat → Prop) : Json → Json → Prop :=
  RecordsAlike ["key", "value"] fun
    | "value" => ListsAlike fun j => SameUnless (changed j)
    | _ => Eq

def QueryPart.ReplacedAt (S : Position → Prop) : Json → Json → Prop :=
  RecordsAlike ["match", "like", "elem_match"] fun
    | "match" => ListsAlike fun i => Match.ReplacedAt (S (.equality i))
    | "elem_match" => ListsAlike fun i => ElemMatch.ReplacedAt fun j => S (.element i j)
    | _ => Eq

def FilterPart.ReplacedAt (S : Position → Prop) : Json → Json → Prop :=
  RecordsAlike ["range", "in", "nin", "all"] fun
    | "range" => ListsAlike fun i => Range.ReplacedAt fun name => S (.bound i name)
    | "in" => ListsAlike fun i => Membership.ReplacedAt fun j => S (.member .anyOf i j)
    | "nin" => ListsAlike fun i => Membership.ReplacedAt fun j => S (.member .noneOf i j)
    | "all" => ListsAlike fun i => Membership.ReplacedAt fun j => S (.member .allOf i j)
    | _ => Eq

/-- Bodies that are alike but for the JSON in these places. -/
def Request.ReplacedAt (S : Position → Prop) : Json → Json → Prop :=
  RecordsAlike ["query", "filter", "sort", "limit", "data"] fun
    | "query" => QueryPart.ReplacedAt S
    | "filter" => FilterPart.ReplacedAt S
    | "data" => SameUnless (S .data)
    | _ => Eq

theorem RequestValue.carries_decode (changed : Prop) :
    Carries decode (SameUnless changed) (SameUnless changed) :=
  carries_sameUnless (fun v => ⟨ofJson v, rfl⟩) changed

theorem carries_optional_raw (changed : Prop) :
    Carries (optional raw) (SameUnless changed) (SameUnless changed) := by
  apply carries_sameUnless
  intro v
  cases v with
  | null => exact ⟨none, rfl⟩
  | _ => exact ⟨_, rfl⟩

theorem Match.carries_decode (changed : Prop) :
    Carries decode (ReplacedAt changed) (SameBut changed) :=
  carries_record _ (.refl changed)
    ⟨carries_member (carries_eq _) fun _ _ _ _ hx hm => { hm with key := hx.symm },
      carries_member (RequestValue.carries_decode changed) fun _ _ _ _ hx hm =>
        { hm with value := hx }⟩

theorem ElemMatch.carries_decode (changed : Nat → Prop) :
    Carries decode (ReplacedAt changed) (SameBut changed) :=
  carries_record _ (.refl changed)
    ⟨carries_member (carries_eq _) fun _ _ _ _ hx he => { he with key := hx.symm },
      carries_member (carries_listMember (fun j => Match.carries_decode (changed j)) fun _ => .refl _)
        fun _ _ _ _ hx he => { he with value := hx }⟩

theorem Bounds.carries_decode (changed : String → Prop) :
    Carries decode (ReplacedAt changed) (SameBut changed) :=
  carries_record _ (.refl changed)
    ⟨carries_member (carries_optional_raw _) fun _ _ _ _ hx hb => { hb with gt := hx },
      carries_member (carries_optional_raw _) fun _ _ _ _ hx hb => { hb with lt := hx },
      carries_member (carries_optional_raw _) fun _ _ _ _ hx hb => { hb with gte := hx },
      carries_member (carries_optional_raw _) fun _ _ _ _ hx hb => { hb with lte := hx }⟩

theorem Range.carries_decode (changed : String → Prop) :
    Carries decode (ReplacedAt changed) (SameBut changed) :=
  carries_record _ (.refl changed)
    ⟨carries_member (carries_eq _) fun _ _ _ _ hx hr => { hr with key := hx.symm },
      carries_member (carries_optional (keepsNull_recordsAlike _ _) (Bounds.carries_decode changed))
        fun _ _ _ _ hx hr => { hr with value := hx }⟩

theorem Membership.carries_decode (changed : Nat → Prop) :
    Carries decode (ReplacedAt changed) (SameBut changed) :=
  carries_record _ (.refl changed)
    ⟨carries_member (carries_eq _) fun _ _ _ _ hx hm => { hm with key := hx.symm },
      carries_member (carries_optional (keepsNull_listsAlike _)
          (carries_list (fun j => RequestValue.carries_decode (changed j)) fun _ => .refl _))
        fun _ _ _ _ hx hm => { hm with value := hx }⟩

section

variable (S : Position → Prop)

theorem QueryPart.carries_decode : Carries decode (ReplacedAt S) (SameBut S) :=
  carries_record _ (.refl S)
    ⟨carries_member (carries_listMember (fun _ => Match.carries_decode _) fun _ => .refl _)
        fun _ _ _ _ hx hq => { hq with equalities := hx },
      carries_member (carries_eq _) fun _ _ _ _ hx hq => { hq with substrings := hx.symm },
      carries_member (carries_listMember (fun _ => ElemMatch.carries_decode _) fun _ => .refl _)
        fun _ _ _ _ hx hq => { hq with elements := hx }⟩

theorem FilterPart.carries_decode : Carries decode (ReplacedAt S) (SameBut S) :=
  carries_record _ (.refl S)
    ⟨carries_member (carries_listMember (fun _ => Range.carries_decode _) fun _ => .refl _)
        fun _ _ _ _ hx hf => { hf with ranges := hx },
      carries_member (carries_listMember (fun _ => Membership.carries_decode _) fun _ => .refl _)
        fun _ _ _ _ hx hf => { hf with anyOf := hx },
      carries_member (carries_listMember (fun _ => Membership.carries_decode _) fun _ => .refl _)
        fun _ _ _ _ hx hf => { hf with noneOf := hx },
      carries_member (carries_listMember (fun _ => Membership.carries_decode _) fun _ => .refl _)
        fun _ _ _ _ hx hf => { hf with allOf := hx }⟩

theorem Request.carries_decode : Carries decode (ReplacedAt S) (SameBut S) :=
  carries_record _ (.refl S)
    ⟨carries_member (carries_orDefault (keepsNull_recordsAlike _ _) (.refl S _)
          (QueryPart.carries_decode S)) fun _ _ _ _ hx hr => { hr with query := hx },
      carries_member (carries_orDefault (keepsNull_recordsAlike _ _) (.refl S _)
          (FilterPart.carries_decode S)) fun _ _ _ _ hx hr => { hr with filter := hx },
      carries_member (carries_eq _) fun _ _ _ _ hx hr => { hr with sort := hx.symm },
      carries_member (carries_eq _) fun _ _ _ _ hx hr => { hr with limit := hx.symm },
      carries_member (carries_optional_raw _) fun _ _ _ _ hx hr => { hr with data := hx }⟩

end

end FilterQuery
