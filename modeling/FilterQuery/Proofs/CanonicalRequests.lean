import FilterQuery.Proofs.CanonicalValues
import FilterQuery.Proofs.RecordOrder
import Mathlib.Data.List.Basic

/-!
# What every decoded request has in common

No bound of it is a null that is there, and neither are its data; all its values have a canonical form. A
property of a record that its default has, and that the reading of each single member keeps, holds of
every record that is read, be it from an object or from an array. The older format needs none of this:
what it makes of a request is canonical by itself.
-/

namespace FilterQuery

namespace Decoder

variable {α σ : Type}

/-- Whatever is read has the property. -/
def Yields (d : Decoder α) (P : α → Prop) : Prop := ∀ v x, d v = .ok x → P x

def Member.Keeps (m : Member σ) (P : σ → Prop) : Prop :=
  ∀ v s s', m.set v s = .ok s' → P s → P s'

section Properties

variable {P : α → Prop} {d : Decoder α}

theorem yields_orDefault {default : α} (hdefault : P default) (h : Yields d P) :
    Yields (orDefault default d) P := by
  intro v x hx
  cases v with
  | null =>
      cases hx
      exact hdefault
  | _ => exact h _ x hx

theorem yields_optional (h : Yields d P) : Yields (optional d) fun o => ∀ x ∈ o, P x := by
  intro v o ho x hx
  have hread : d v = .ok x := by
    cases v with
    | null =>
        cases ho
        cases hx
    | _ =>
        obtain ⟨y, hy, rfl⟩ := exists_of_map_eq_ok ho
        cases hx
        exact hy
  exact h v x hread

/-- A null counts as absent, so none is kept. -/
theorem yields_optional_raw : Yields (optional raw) (· ≠ some .null) := by
  intro v o ho
  cases v with
  | null =>
      cases ho
      exact (Option.some_ne_none _).symm
  | _ =>
      cases ho
      intro heq
      cases heq

theorem yields_list (h : Yields d P) : Yields (list d) fun xs => ∀ x ∈ xs, P x := by
  intro v xs hxs
  cases v with
  | array items =>
      change items.mapM d = .ok xs at hxs
      induction items generalizing xs with
      | nil =>
          cases hxs
          exact fun x hx => absurd hx List.not_mem_nil
      | cons item rest ih =>
          rw [mapM_cons] at hxs
          obtain ⟨y, hy, hxs⟩ := exists_of_bind_eq_ok hxs
          obtain ⟨ys, hys, hxs⟩ := exists_of_bind_eq_ok hxs
          cases hxs
          intro x hx
          rcases List.mem_cons.1 hx with rfl | hx
          · exact h item x hy
          · exact ih ys hys x hx
  | _ => cases hxs

end Properties

section Records

variable {P : σ → Prop} {Q : α → Prop} {d : Decoder α} {name : String}

theorem keeps_member {put : α → σ → σ} (hd : Yields d Q) (hput : ∀ x s, Q x → P s → P (put x s)) :
    (member name d put).Keeps P := by
  intro v s s' hset hs
  obtain ⟨x, hx, rfl⟩ := exists_of_map_eq_ok hset
  exact hput x s (hd v x hx) hs

/-- A member that the property does not look at. -/
theorem keeps_member_of_forall {put : α → σ → σ} (hput : ∀ x s, P s → P (put x s)) :
    (member name d put).Keeps P :=
  keeps_member (fun _ _ _ => trivial) fun x s (_ : True) hs => hput x s hs

theorem keeps_listMember {put : List α → σ → σ} (hd : Yields d Q)
    (hput : ∀ xs s, (∀ x ∈ xs, Q x) → P s → P (put xs s)) : (listMember name d put).Keeps P :=
  keeps_member (yields_orDefault (fun _ hx => absurd hx List.not_mem_nil) (yields_list hd)) hput

variable {known : List (Member σ)} {default : σ}

theorem readMember_keeps (h : ∀ m ∈ known, m.Keeps P) {e : String × Json} {s s' : σ}
    (hread : readMember known e s = .ok s') (hs : P s) : P s' := by
  rw [readMember] at hread
  split at hread
  case h_1 m hfind => exact h m (List.mem_of_find?_eq_some hfind) e.2 s s' hread hs
  · cases hread
    exact hs

theorem members_keeps (h : ∀ m ∈ known, m.Keeps P) {object : List (String × Json)} {s s' : σ}
    (hread : members known object s = .ok s') (hs : P s) : P s' := by
  induction object generalizing s with
  | nil =>
      cases hread
      exact hs
  | cons e rest ih =>
      rw [members_cons] at hread
      obtain ⟨t, ht, hrest⟩ := exists_of_bind_eq_ok hread
      exact ih hrest (readMember_keeps h ht hs)

theorem values_keeps (h : ∀ m ∈ known, m.Keeps P) {items : List Json} {s s' : σ}
    (hread : values known items s = .ok s') (hs : P s) : P s' := by
  induction known generalizing items s with
  | nil =>
      cases hread
      exact hs
  | cons m rest ih =>
      cases items with
      | nil =>
          rw [values_nil] at hread
          cases hread
          exact hs
      | cons item items =>
          rw [values_cons] at hread
          obtain ⟨t, ht, hrest⟩ := exists_of_bind_eq_ok hread
          have hkept : P t := h m List.mem_cons_self item s t ht hs
          exact ih (fun m hm => h m (List.mem_cons_of_mem _ hm)) hrest hkept

theorem yields_record (title : String) (hdefault : P default) (h : known.Forall (·.Keeps P)) :
    Yields (record title known default) P := by
  have hmembers := List.forall_iff_forall_mem.1 h
  intro v s hs
  cases v with
  | object object => exact members_keeps hmembers hs hdefault
  | array items =>
      obtain ⟨t, ht, hs⟩ := exists_of_bind_eq_ok hs
      split at hs
      · cases hs
      · cases hs
        exact values_keeps hmembers ht hdefault
  | _ => cases hs

end Records

end Decoder

open Decoder

def Match.Canonical (m : Match) : Prop := m.value.Canonical

def ElemMatch.Canonical (e : ElemMatch) : Prop := ∀ m ∈ e.value, m.Canonical

structure Bounds.Canonical (b : Bounds) : Prop where
  gt : b.gt ≠ some .null
  lt : b.lt ≠ some .null
  gte : b.gte ≠ some .null
  lte : b.lte ≠ some .null

def Range.Canonical (r : Range) : Prop := ∀ b ∈ r.value, b.Canonical

def Membership.Canonical (m : Membership) : Prop := ∀ vs ∈ m.value, ∀ v ∈ vs, v.Canonical

structure QueryPart.Canonical (q : QueryPart) : Prop where
  equalities : ∀ m ∈ q.equalities, m.Canonical
  elements : ∀ e ∈ q.elements, e.Canonical

structure FilterPart.Canonical (f : FilterPart) : Prop where
  ranges : ∀ r ∈ f.ranges, r.Canonical
  anyOf : ∀ m ∈ f.anyOf, m.Canonical
  noneOf : ∀ m ∈ f.noneOf, m.Canonical
  allOf : ∀ m ∈ f.allOf, m.Canonical

structure Request.Canonical (r : Request) : Prop where
  query : r.query.Canonical
  filter : r.filter.Canonical
  data : r.data ≠ some .null

theorem RequestValue.yields_decode : Yields decode Canonical := by
  intro v x hx
  cases hx
  exact canonical_ofJson v

theorem Match.yields_decode : Yields decode Canonical :=
  yields_record _ .null
    ⟨keeps_member_of_forall fun _ _ hm => hm,
      keeps_member RequestValue.yields_decode fun _ _ hx _ => hx⟩

theorem ElemMatch.yields_decode : Yields decode Canonical :=
  yields_record _ (fun _ hm => absurd hm List.not_mem_nil)
    ⟨keeps_member_of_forall fun _ _ he => he,
      keeps_listMember Match.yields_decode fun _ _ hx _ => hx⟩

theorem Bounds.canonical_default : Canonical {} where
  gt := (Option.some_ne_none _).symm
  lt := (Option.some_ne_none _).symm
  gte := (Option.some_ne_none _).symm
  lte := (Option.some_ne_none _).symm

theorem Bounds.yields_decode : Yields decode Canonical :=
  yields_record _ canonical_default
    ⟨keeps_member yields_optional_raw fun _ _ hx hb => { hb with gt := hx },
      keeps_member yields_optional_raw fun _ _ hx hb => { hb with lt := hx },
      keeps_member yields_optional_raw fun _ _ hx hb => { hb with gte := hx },
      keeps_member yields_optional_raw fun _ _ hx hb => { hb with lte := hx }⟩

theorem Range.yields_decode : Yields decode Canonical :=
  yields_record _ (fun _ hb => absurd hb (Option.not_mem_none _))
    ⟨keeps_member_of_forall fun _ _ hr => hr,
      keeps_member (yields_optional Bounds.yields_decode) fun _ _ hx _ => hx⟩

theorem Membership.yields_decode : Yields decode Canonical :=
  yields_record _ (fun _ hvs => absurd hvs (Option.not_mem_none _))
    ⟨keeps_member_of_forall fun _ _ hm => hm,
      keeps_member (yields_optional (yields_list RequestValue.yields_decode)) fun _ _ hx _ => hx⟩

theorem QueryPart.canonical_default : Canonical {} where
  equalities := fun _ hm => absurd hm List.not_mem_nil
  elements := fun _ he => absurd he List.not_mem_nil

theorem QueryPart.yields_decode : Yields decode Canonical :=
  yields_record _ canonical_default
    ⟨keeps_listMember Match.yields_decode fun _ _ hx hq => { hq with equalities := hx },
      keeps_member_of_forall fun _ _ hq => { hq with },
      keeps_listMember ElemMatch.yields_decode fun _ _ hx hq => { hq with elements := hx }⟩

theorem FilterPart.canonical_default : Canonical {} where
  ranges := fun _ hr => absurd hr List.not_mem_nil
  anyOf := fun _ hm => absurd hm List.not_mem_nil
  noneOf := fun _ hm => absurd hm List.not_mem_nil
  allOf := fun _ hm => absurd hm List.not_mem_nil

theorem FilterPart.yields_decode : Yields decode Canonical :=
  yields_record _ canonical_default
    ⟨keeps_listMember Range.yields_decode fun _ _ hx hf => { hf with ranges := hx },
      keeps_listMember Membership.yields_decode fun _ _ hx hf => { hf with anyOf := hx },
      keeps_listMember Membership.yields_decode fun _ _ hx hf => { hf with noneOf := hx },
      keeps_listMember Membership.yields_decode fun _ _ hx hf => { hf with allOf := hx }⟩

theorem Request.canonical_default (version : WireVersion) : Canonical { version } where
  query := QueryPart.canonical_default
  filter := FilterPart.canonical_default
  data := (Option.some_ne_none _).symm

theorem Request.yields_decode : Yields decode Canonical :=
  yields_record _ (canonical_default _)
    ⟨keeps_member (yields_orDefault QueryPart.canonical_default QueryPart.yields_decode)
        fun _ _ hx hr => { hr with query := hx },
      keeps_member (yields_orDefault FilterPart.canonical_default FilterPart.yields_decode)
        fun _ _ hx hr => { hr with filter := hx },
      keeps_member_of_forall fun _ _ hr => { hr with },
      keeps_member_of_forall fun _ _ hr => { hr with },
      keeps_member yields_optional_raw fun _ _ hx hr => { hr with data := hx }⟩

namespace Legacy

theorem filter_isNull_ne (o : Option Json) : o.filter (!·.isNull) ≠ some .null := by
  intro heq
  have hkept := (Option.filter_eq_some_iff.1 heq).2
  exact absurd hkept (by decide)

theorem Bounds.canonical_lift (b : Bounds) : b.lift.Canonical where
  gt := filter_isNull_ne b.gt
  lt := filter_isNull_ne b.lt
  gte := (Option.some_ne_none _).symm
  lte := (Option.some_ne_none _).symm

theorem Range.canonical_lift (r : Range) : r.lift.Canonical := by
  intro b hb
  obtain ⟨b', -, rfl⟩ := Option.map_eq_some_iff.1 hb
  exact b'.canonical_lift

theorem Request.canonical_lift (r : Request) : r.lift.Canonical where
  query := by
    refine ⟨fun m hm => ?_, fun _ he => absurd he List.not_mem_nil⟩
    obtain ⟨m', -, rfl⟩ := List.mem_map.1 hm
    exact .string m'.value
  filter := by
    refine { FilterPart.canonical_default with ranges := fun r' hr => ?_ }
    obtain ⟨r'', -, rfl⟩ := List.mem_map.1 hr
    exact r''.canonical_lift
  data := (Option.some_ne_none _).symm

end Legacy

theorem Request.ofJson_of_ne_null {version : WireVersion} {body : Json} (h : body ≠ .null) :
    ofJson version body =
      match version with
      | .v2 => (Legacy.Request.decode body).map Legacy.Request.lift
      | .v3 => decode body := by
  cases body with
  | null => exact absurd rfl h
  | _ => rfl

theorem Request.canonical_of_ofJson {version : WireVersion} {body : Json} {r : Request}
    (h : ofJson version body = .ok r) : r.Canonical := by
  by_cases hnull : body = .null
  · rw [hnull] at h
    cases h
    exact canonical_default version
  rw [ofJson_of_ne_null hnull] at h
  cases version with
  | v2 =>
      obtain ⟨legacy, -, rfl⟩ := exists_of_map_eq_ok h
      exact legacy.canonical_lift
  | v3 => exact yields_decode body r h

end FilterQuery
