import FilterQuery.Proofs.CanonicalRequests
import Mathlib.Data.List.Induction

/-!
# What stands in a field

A field of a record is filled by the member of one name and left alone by all others. So the field of a
record that was read can be found in the JSON without reading the rest: it is what the last member of
that name was read to, or the value at the place of the member in an array, and null where there is
neither.
-/

namespace FilterQuery

namespace Json

/-- What stands under a name in an object, or in the place of that name in an array; null where nothing
does. Of several members of one name the last counts. -/
def part (name : String) (place : Nat) : Json → Json
  | .object members => Decoder.contentOf members.reverse name
  | .array items => items.getD place .null
  | _ => .null

/-- The items of a list; null is the empty one. -/
def items : Json → List Json
  | .array items => items
  | _ => []

/-- A text; null is the empty one. -/
def textOrEmpty : Json → String
  | .string s => s
  | _ => ""

end Json

namespace Decoder

variable {α β σ : Type} {name : String} {d : Decoder α} {get : σ → α}

/-- A member of that name fills the field, and any other leaves it alone. -/
def Member.Fits (m : Member σ) (name : String) (d : Decoder α) (get : σ → α) : Prop :=
  ∀ v s s', m.set v s = .ok s' → if m.name = name then d v = .ok (get s') else get s' = get s

theorem fits_self {put : α → σ → σ} (hget : ∀ x s, get (put x s) = x) :
    (member name d put).Fits name d get := by
  intro v s s' hset
  obtain ⟨x, hx, rfl⟩ := exists_of_map_eq_ok hset
  have hname : (member name d put).name = name := rfl
  rw [if_pos hname, hget]
  exact hx

theorem fits_other {other : String} {d' : Decoder β} {put : β → σ → σ} (hother : other ≠ name)
    (hget : ∀ x s, get (put x s) = get s) : (member other d' put).Fits name d get := by
  intro v s s' hset
  obtain ⟨x, -, rfl⟩ := exists_of_map_eq_ok hset
  have hname : (member other d' put).name ≠ name := hother
  rw [if_neg hname]
  exact hget x s

section Members

variable {known : List (Member σ)} (hfits : ∀ m ∈ known, m.Fits name d get)

include hfits

theorem fits_readMember {m : Member σ} (hm : m ∈ known) (hname : m.name = name)
    {e : String × Json} {s s' : σ} (hread : readMember known e s = .ok s') :
    if e.1 = name then d e.2 = .ok (get s') else get s' = get s := by
  rw [readMember] at hread
  split at hread
  case h_1 m' hfind =>
    have hfound : m'.name = e.1 :=
      beq_iff_eq.1 (List.find?_some (p := fun m : Member σ => m.name == e.1) hfind)
    rw [← hfound]
    exact hfits m' (List.mem_of_find?_eq_some hfind) e.2 s s' hread
  case h_2 hfind =>
    have hother : e.1 ≠ name := by
      intro heq
      have hmissed := List.find?_eq_none.1 hfind m hm
      rw [hname, heq, beq_self_eq_true] at hmissed
      exact hmissed rfl
    cases hread
    rw [if_neg hother]

/-- After an object the field has what the last member of the name was read to. -/
theorem lookup_of_members {m : Member σ} (hm : m ∈ known) (hname : m.name = name)
    {object : List (String × Json)} {s s' : σ} (hread : members known object s = .ok s') :
    match object.reverse.lookup name with
    | some v => d v = .ok (get s')
    | none => get s' = get s := by
  -- from the end: the last member has the name, or leaves the field to those before it
  induction object using List.reverseRecOn generalizing s' with
  | nil =>
      cases hread
      rfl
  | append_singleton before e ih =>
      rw [members_append] at hread
      obtain ⟨t, ht, hlast⟩ := exists_of_bind_eq_ok hread
      obtain ⟨t', ht', hend⟩ := exists_of_bind_eq_ok hlast
      cases hend
      have hstep := fits_readMember hfits hm hname ht'
      rw [List.reverse_append, List.reverse_singleton, List.singleton_append, lookup_cons]
      by_cases hthis : name = e.1
      · rw [if_pos hthis.symm] at hstep
        rw [if_pos hthis]
        exact hstep
      · rw [if_neg (Ne.symm hthis)] at hstep
        rw [if_neg hthis, hstep]
        exact ih ht

/-- After an array the field has what the value in its place was read to. -/
theorem getElem?_of_values (hdistinct : (known.map Member.name).Nodup) {place : Nat}
    (hplace : (known.map Member.name)[place]? = some name) {items : List Json} {s s' : σ}
    (hread : values known items s = .ok s') :
    match items[place]? with
    | some v => d v = .ok (get s')
    | none => get s' = get s := by
  induction known generalizing place items s with
  | nil => cases hplace
  | cons m rest ih =>
      obtain ⟨hm, hrest⟩ := List.forall_mem_cons.1 hfits
      obtain ⟨hfresh, hdistinct⟩ := List.nodup_cons.1 hdistinct
      cases items with
      | nil =>
          rw [values_nil] at hread
          cases hread
          rfl
      | cons item items =>
          rw [values_cons] at hread
          obtain ⟨t, ht, hread⟩ := exists_of_bind_eq_ok hread
          have hstep := hm item s t ht
          cases place with
          | zero =>
              have hname : m.name = name := Option.some.inj hplace
              rw [if_pos hname] at hstep
              -- no name comes twice, so nothing behind this member changes the field again
              have hlater : get s' = get t := by
                refine values_keeps (P := fun s => get s = get t) ?_ hread rfl
                intro m' hm' v s s' hset hs
                have hother : m'.name ≠ name := by
                  rintro heq
                  exact hfresh (hname.trans heq.symm ▸ List.mem_map_of_mem hm')
                have hkept := hrest m' hm' v s s' hset
                rw [if_neg hother] at hkept
                exact hkept.trans hs
              rw [← hlater] at hstep
              exact hstep
          | succ place =>
              rw [List.map_cons, List.getElem?_cons_succ] at hplace
              have hother : m.name ≠ name := fun heq =>
                hfresh (heq ▸ List.mem_of_getElem? hplace)
              rw [if_neg hother] at hstep
              rw [← hstep]
              exact ih hrest hdistinct hplace hread

end Members

/-- A field of a record that was read is what its part of the JSON is read to. -/
theorem part_of_record {known : List (Member σ)} {default : σ} {title : String} {place : Nat}
    {v : Json} {s : σ} (hread : record title known default v = .ok s)
    (hdistinct : (known.map Member.name).Nodup)
    (hplace : (known.map Member.name)[place]? = some name)
    (hdefault : d .null = .ok (get default)) (hfits : known.Forall (·.Fits name d get)) :
    d (v.part name place) = .ok (get s) := by
  rw [List.forall_iff_forall_mem] at hfits
  cases v with
  | object object =>
      obtain ⟨m, hm, hname⟩ := List.mem_map.1 (List.mem_of_getElem? hplace)
      have hfield := lookup_of_members hfits hm hname hread
      rw [Json.part]
      unfold contentOf
      cases hlookup : object.reverse.lookup name with
      | none =>
          rw [hlookup] at hfield
          rw [Option.getD_none, hfield]
          exact hdefault
      | some content =>
          rw [hlookup] at hfield
          exact hfield
  | array items =>
      obtain ⟨t, ht, hs⟩ := exists_of_bind_eq_ok hread
      split at hs
      · cases hs
      · cases hs
        have hfield := getElem?_of_values hfits hdistinct hplace ht
        rw [Json.part, List.getD_eq_getElem?_getD]
        cases hitem : items[place]? with
        | none =>
            rw [hitem] at hfield
            rw [Option.getD_none, hfield]
            exact hdefault
        | some content =>
            rw [hitem] at hfield
            exact hfield
  | _ => cases hread

theorem eq_textOrEmpty {v : Json} {s : String} (h : orDefault "" text v = .ok s) :
    s = v.textOrEmpty := by
  cases v with
  | null =>
      cases h
      rfl
  | string t =>
      cases h
      rfl
  | _ => cases h

theorem eq_string_or_null {v : Json} {s : String} (h : orDefault "" text v = .ok s) :
    v = .string s ∨ v = .null ∧ s = "" := by
  cases v with
  | null =>
      cases h
      exact .inr ⟨rfl, rfl⟩
  | string t =>
      cases h
      exact .inl rfl
  | _ => cases h

section Lists

variable {f : Json → α} (hd : ∀ v x, d v = .ok x → x = f v)

include hd

theorem eq_map_of_mapM {items : List Json} {xs : List α} (h : items.mapM d = .ok xs) :
    xs = items.map f ∧ ∀ item ∈ items, d item = .ok (f item) := by
  induction items generalizing xs with
  | nil =>
      cases h
      exact ⟨rfl, fun item hitem => absurd hitem List.not_mem_nil⟩
  | cons item rest ih =>
      rw [mapM_cons] at h
      obtain ⟨x, hx, h⟩ := exists_of_bind_eq_ok h
      obtain ⟨later, hlater, h⟩ := exists_of_bind_eq_ok h
      cases h
      obtain ⟨heq, hread⟩ := ih hlater
      obtain rfl := hd item x hx
      rw [heq, List.map_cons]
      exact ⟨rfl, List.forall_mem_cons.2 ⟨hx, hread⟩⟩

theorem eq_map_items {v : Json} {xs : List α} (h : orDefault [] (list d) v = .ok xs) :
    xs = v.items.map f ∧ ∀ item ∈ v.items, d item = .ok (f item) := by
  cases v with
  | null =>
      cases h
      exact ⟨rfl, fun item hitem => absurd hitem List.not_mem_nil⟩
  | array items => exact eq_map_of_mapM hd h
  | _ => cases h

end Lists

end Decoder

end FilterQuery
