import FilterQuery.Request.Wire

/-!
# Reading a record in two ways

A record is read member by member, so two readers of one object can be compared member by member: if
each step leads from related records to related records, so does the whole object. The relation may
depend on the members that are still to come, which is how a reader can rely on a member before it has
seen it.

Members that no reader knows, and what a reader does not look at in the others, can be taken away from
an object without a change of what is read.
-/

namespace FilterQuery

/-- Null, or an object all of whose members pass a test. -/
def Json.IsRecord (test : String → Json → Prop) : Json → Prop
  | .null => True
  | .object es => ∀ e ∈ es, test e.1 e.2
  | _ => False

def Json.AllItems (test : Json → Prop) : Json → Prop
  | .array items => ∀ item ∈ items, test item
  | _ => True

namespace Decoder

variable {α β σ τ : Type}

theorem exists_of_bind_eq_ok {ε : Type} {reading : Except ε α} {f : α → Except ε β} {y : β}
    (h : reading.bind f = .ok y) : ∃ x, reading = .ok x ∧ f x = .ok y := by
  cases reading with
  | error m => cases h
  | ok x => exact ⟨x, rfl, h⟩

theorem exists_of_map_eq_ok {reading : Except Mismatch α} {f : α → β} {y : β}
    (h : reading.map f = .ok y) : ∃ x, reading = .ok x ∧ f x = y := by
  cases reading with
  | error m => cases h
  | ok x =>
      cases h
      exact ⟨x, rfl, rfl⟩

theorem mapM_cons (d : Decoder α) (item : Json) (rest : List Json) :
    (item :: rest).mapM d = (d item).bind fun x => (rest.mapM d).bind fun xs => .ok (x :: xs) := by
  rw [List.mapM_cons]
  rfl

/-- Where the first result is a value, the second is a related one. -/
def Follows (R : α → β → Prop) (first : Except Mismatch α) (second : Except Mismatch β) : Prop :=
  ∀ x, first = .ok x → ∃ y, second = .ok y ∧ R x y

section Follows

variable {R : α → β → Prop} {d : Decoder α} {d' : Decoder β} {v : Json}

theorem follows_ok {x : α} {y : β} (h : R x y) : Follows R (.ok x) (.ok y) := by
  intro x' hx
  cases hx
  exact ⟨y, rfl, h⟩

theorem follows_error {m : Mismatch} {second : Except Mismatch β} : Follows R (.error m) second := by
  intro x hx
  cases hx

theorem follows_refl (d : Decoder α) (v : Json) : Follows (fun x y => y = x) (d v) (d v) :=
  fun x hx => ⟨x, hx, rfl⟩

theorem Follows.map {R' : σ → τ → Prop} {f : α → σ} {g : β → τ} {first : Except Mismatch α}
    {second : Except Mismatch β} (h : Follows R first second)
    (hR : ∀ x y, R x y → R' (f x) (g y)) : Follows R' (first.map f) (second.map g) := by
  cases first with
  | error m => exact follows_error
  | ok x =>
      obtain ⟨y, hy, hxy⟩ := h x rfl
      rw [hy]
      exact follows_ok (hR x y hxy)

theorem follows_orDefault {x : α} {y : β} (hdefault : R x y) (h : Follows R (d v) (d' v)) :
    Follows R (orDefault x d v) (orDefault y d' v) := by
  cases v with
  | null => exact follows_ok hdefault
  | _ => exact h

theorem follows_optional {f : α → β} (h : Follows (fun x y => y = f x) (d v) (d' v)) :
    Follows (fun x y => y = x.map f) (optional d v) (optional d' v) := by
  cases v with
  | null => exact follows_ok rfl
  | _ => exact h.map fun x y hxy => congrArg some hxy

theorem follows_mapM {f : α → β} {items : List Json}
    (h : ∀ item ∈ items, Follows (fun x y => y = f x) (d item) (d' item)) :
    Follows (fun xs ys => ys = xs.map f) (items.mapM d) (items.mapM d') := by
  induction items with
  | nil => exact follows_ok rfl
  | cons item rest ih =>
      rw [List.mapM_cons, List.mapM_cons]
      cases hitem : d item with
      | error m => exact follows_error
      | ok x =>
          obtain ⟨y, hy, rfl⟩ := h item List.mem_cons_self x hitem
          cases hrest : rest.mapM d with
          | error m => exact follows_error
          | ok xs =>
              obtain ⟨ys, hys, rfl⟩ := ih (fun item hi => h item (List.mem_cons_of_mem _ hi)) xs hrest
              rw [hy, hys]
              exact follows_ok rfl

theorem follows_list {f : α → β} {test : Json → Prop} (hv : v.AllItems test)
    (h : ∀ item, test item → Follows (fun x y => y = f x) (d item) (d' item)) :
    Follows (fun xs ys => ys = xs.map f) (list d v) (list d' v) := by
  cases v with
  | array items => exact follows_mapM fun item hitem => h item (hv item hitem)
  | _ => exact follows_error

end Follows

def readMember (known : List (Member σ)) (e : String × Json) (record : σ) : Except Mismatch σ :=
  match known.find? (·.name == e.1) with
  | some m => m.set e.2 record
  | none => .ok record

section OneMember

variable {known : List (Member σ)} {known' : List (Member τ)} {e : String × Json} {s : σ} {t : τ}

theorem readMember_cons_of_eq {m : Member σ} (h : e.1 = m.name) :
    readMember (m :: known) e s = m.set e.2 s := by
  have hfind : (m :: known).find? (·.name == e.1) = some m :=
    List.find?_cons_of_pos (beq_iff_eq.2 h.symm)
  rw [readMember, hfind]

theorem readMember_cons_of_ne {m : Member σ} (h : e.1 ≠ m.name) :
    readMember (m :: known) e s = readMember known e s := by
  have hfind : (m :: known).find? (·.name == e.1) = known.find? (·.name == e.1) :=
    List.find?_cons_of_neg fun hname => h (beq_iff_eq.1 hname).symm
  rw [readMember, hfind]
  rfl

theorem readMember_of_forall_ne (h : ∀ m ∈ known, e.1 ≠ m.name) : readMember known e s = .ok s := by
  induction known with
  | nil => rfl
  | cons m rest ih =>
      rw [readMember_cons_of_ne (h m List.mem_cons_self)]
      exact ih fun m hm => h m (List.mem_cons_of_mem _ hm)

variable {R : σ → τ → Prop} {name : String} {d : Decoder α} {put : α → σ → σ} {d' : Decoder β}
  {put' : β → τ → τ}

theorem follows_readMember_both {Q : α → β → Prop} (hd : e.1 = name → Follows Q (d e.2) (d' e.2))
    (hput : e.1 = name → ∀ x y, Q x y → R (put x s) (put' y t))
    (hrest : e.1 ≠ name → Follows R (readMember known e s) (readMember known' e t)) :
    Follows R (readMember (member name d put :: known) e s)
      (readMember (member name d' put' :: known') e t) := by
  by_cases hname : e.1 = name
  · rw [readMember_cons_of_eq hname, readMember_cons_of_eq hname]
    exact (hd hname).map (hput hname)
  · rw [readMember_cons_of_ne hname, readMember_cons_of_ne hname]
    exact hrest hname

/-- Only the first reader knows the name, and the relation does not look at what it reads there. -/
theorem follows_readMember_left (hput : ∀ x, R (put x s) t)
    (hother : e.1 = name → readMember known' e t = .ok t)
    (hrest : e.1 ≠ name → Follows R (readMember known e s) (readMember known' e t)) :
    Follows R (readMember (member name d put :: known) e s) (readMember known' e t) := by
  by_cases hname : e.1 = name
  · rw [readMember_cons_of_eq hname, hother hname]
    change Follows R ((d e.2).map fun x => put x s) _
    cases d e.2 with
    | error m => exact follows_error
    | ok x => exact follows_ok (hput x)
  · rw [readMember_cons_of_ne hname]
    exact hrest hname

/-- Only the second reader knows the name, and there is no such member. -/
theorem follows_readMember_right {m : Member τ} (hname : e.1 ≠ m.name)
    (hrest : Follows R (readMember known e s) (readMember known' e t)) :
    Follows R (readMember known e s) (readMember (m :: known') e t) := by
  rw [readMember_cons_of_ne hname]
  exact hrest

end OneMember

section AllMembers

variable {known : List (Member σ)} {known' : List (Member τ)}

theorem members_cons (e : String × Json) (rest : List (String × Json)) (s : σ) :
    members known (e :: rest) s = (readMember known e s).bind (members known rest) := rfl

theorem members_append (first second : List (String × Json)) (s : σ) :
    members known (first ++ second) s = (members known first s).bind (members known second) :=
  List.foldlM_append

/-- Step by step, a second reader follows the first through an object. -/
theorem follows_members {R : List (String × Json) → σ → τ → Prop} {object : List (String × Json)}
    {s : σ} {t : τ} (hR : R object s t)
    (hstep : ∀ e ∈ object, ∀ rest s t, R (e :: rest) s t →
      Follows (R rest) (readMember known e s) (readMember known' e t)) :
    Follows (R []) (members known object s) (members known' object t) := by
  induction object generalizing s t with
  | nil => exact follows_ok hR
  | cons e rest ih =>
      rw [members_cons, members_cons]
      -- The relation moves on with the list: after a step it speaks of the members behind it.
      have hfirst := hstep e List.mem_cons_self rest s t hR
      cases hs : readMember known e s with
      | error m => exact follows_error
      | ok s' =>
          obtain ⟨t', ht, hR'⟩ := hfirst s' hs
          rw [ht]
          exact ih hR' fun e he => hstep e (List.mem_cons_of_mem _ he)

theorem follows_record {R : List (String × Json) → σ → τ → Prop} {test : String → Json → Prop}
    {name name' : String} {s : σ} {t : τ} {v : Json} (hv : v.IsRecord test)
    (hR : ∀ object, v = .object object → R object s t)
    (hstep : ∀ e rest s t, test e.1 e.2 → R (e :: rest) s t →
      Follows (R rest) (readMember known e s) (readMember known' e t)) :
    Follows (R []) (record name known s v) (record name' known' t v) := by
  cases v with
  | object object =>
      exact follows_members (hR object rfl) fun e he rest s t => hstep e rest s t (hv e he)
  | array items => exact absurd hv id
  | _ => exact follows_error

end AllMembers

end Decoder

namespace Json

def without (name : String) : Json → Json
  | .object es => .object (es.filter (·.1 ≠ name))
  | v => v

def mapMember (name : String) (f : Json → Json) : Json → Json
  | .object es => .object (es.map fun e => if e.1 = name then (e.1, f e.2) else e)
  | v => v

theorem isRecord_without {test : String → Json → Prop} {name : String} (v : Json)
    (h : ∀ content, test name content) : (v.without name).IsRecord test ↔ v.IsRecord test := by
  cases v with
  | object object =>
      constructor
      · intro hv e he
        by_cases hname : e.1 = name
        · rw [hname]
          exact h e.2
        · exact hv e (List.mem_filter.2 ⟨he, decide_eq_true hname⟩)
      · intro hv e he
        exact hv e (List.mem_filter.1 he).1
  | _ => rfl

theorem isRecord_mapMember {test : String → Json → Prop} {name : String} {f : Json → Json} (v : Json)
    (h : ∀ content, test name (f content) ↔ test name content) :
    (v.mapMember name f).IsRecord test ↔ v.IsRecord test := by
  cases v with
  | object object =>
      change (∀ e ∈ object.map (fun e : String × Json => if e.1 = name then (e.1, f e.2) else e),
          test e.1 e.2) ↔ ∀ e ∈ object, test e.1 e.2
      rw [List.forall_mem_map]
      refine forall₂_congr fun e he => ?_
      split
      · next hname =>
          rw [hname]
          exact h e.2
      · rfl
  | _ => rfl

end Json

namespace Decoder

variable {σ : Type} {known : List (Member σ)}

theorem members_filter {name : String} (h : ∀ m ∈ known, name ≠ m.name)
    (object : List (String × Json)) (s : σ) :
    members known (object.filter (·.1 ≠ name)) s = members known object s := by
  induction object generalizing s with
  | nil => rfl
  | cons e rest ih =>
      by_cases hname : e.1 = name
      · rw [List.filter_cons_of_neg (by simp [hname]), ih, members_cons,
          readMember_of_forall_ne (by rw [hname]; exact h)]
        rfl
      · rw [List.filter_cons_of_pos (by simp [hname]), members_cons, members_cons]
        exact congrArg _ (funext ih)

theorem members_map {f : String × Json → String × Json}
    (h : ∀ e s, readMember known (f e) s = readMember known e s) (object : List (String × Json))
    (s : σ) : members known (object.map f) s = members known object s := by
  induction object generalizing s with
  | nil => rfl
  | cons e rest ih =>
      rw [List.map_cons, members_cons, members_cons, h]
      exact congrArg _ (funext ih)

theorem member_set_congr {α : Type} {name : String} {d : Decoder α} {put : α → σ → σ} {v v' : Json}
    (h : d v = d v') (s : σ) : (member name d put).set v s = (member name d put).set v' s :=
  congrArg (Except.map fun x => put x s) h

/-- Members that a record does not know can be taken away. -/
theorem record_without {name : String} (h : ∀ m ∈ known, name ≠ m.name) (title : String) (s : σ)
    (v : Json) : record title known s (v.without name) = record title known s v := by
  cases v with
  | object object => exact members_filter h object s
  | _ => rfl

/-- The contents of a member can be changed in a way that its reader does not see. -/
theorem record_mapMember {name : String} {f : Json → Json}
    (h : ∀ m ∈ known, name = m.name → ∀ v s, m.set (f v) s = m.set v s) (title : String) (s : σ)
    (v : Json) : record title known s (v.mapMember name f) = record title known s v := by
  cases v with
  | object object =>
      refine members_map (fun e s => ?_) object s
      split
      · next hname =>
          change (match known.find? (·.name == e.1) with
            | some m => m.set (f e.2) s
            | none => .ok s) = readMember known e s
          rw [readMember]
          cases hm : known.find? (·.name == e.1) with
          | none => rfl
          | some m =>
              have hfound : (m.name == e.1) = true :=
                List.find?_some (p := fun m : Member σ => m.name == e.1) hm
              rw [hname, beq_iff_eq] at hfound
              exact h m (List.mem_of_find?_eq_some hm) hfound.symm e.2 s
      · rfl
  | _ => rfl

end Decoder

end FilterQuery
