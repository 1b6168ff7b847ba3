import FilterQuery.KeyMap
import FilterQuery.Proofs.Records

/-!
# Reading a record in any order

An object is read member by member in the order in which it is written, an array in the order of the
record's declaration. Both come to the same reading, that of the declared members one after the other
with null for those that are missing, provided that the record is regular: its members change different
parts of it, so that the order does not matter, and a null says nothing on a record that is still as it
was at first.

Only values are compared. Which of several faults is found first does depend on the order.
-/

namespace FilterQuery

namespace Decoder

variable {α β σ : Type}

theorem bind_ok (reading : Except Mismatch α) : reading.bind .ok = reading := by
  cases reading <;> rfl

/-- The readings come to the same value, or both to none. -/
def SameValue (first second : Except Mismatch α) : Prop := ∀ x, first = .ok x ↔ second = .ok x

namespace SameValue

variable {first second third : Except Mismatch α}

theorem refl (reading : Except Mismatch α) : SameValue reading reading := fun _ => Iff.rfl

theorem of_eq (h : first = second) : SameValue first second := h ▸ refl first

theorem symm (h : SameValue first second) : SameValue second first := fun x => (h x).symm

theorem trans (h : SameValue first second) (h' : SameValue second third) :
    SameValue first third := fun x => (h x).trans (h' x)

theorem errors (m m' : Mismatch) : SameValue (.error m : Except Mismatch α) (.error m') := by
  intro x
  constructor
  · intro h
    cases h
  · intro h
    cases h

/-- The values of the two readings, if they have any. -/
theorem cases_on (h : SameValue first second) :
    (∃ x, first = .ok x ∧ second = .ok x) ∨ ∃ m m', first = .error m ∧ second = .error m' := by
  cases hfirst : first with
  | ok x => exact .inl ⟨x, rfl, (h x).1 hfirst⟩
  | error m =>
      cases hsecond : second with
      | ok x => exact absurd ((h x).2 hsecond) (by rw [hfirst]; exact fun heq => nomatch heq)
      | error m' => exact .inr ⟨m, m', rfl, rfl⟩

theorem bind {f g : α → Except Mismatch β} (h : SameValue first second)
    (hf : ∀ x, SameValue (f x) (g x)) : SameValue (first.bind f) (second.bind g) := by
  rcases h.cases_on with ⟨x, hfirst, hsecond⟩ | ⟨m, m', hfirst, hsecond⟩
  · rw [hfirst, hsecond]
    exact hf x
  · rw [hfirst, hsecond]
    exact errors m m'

theorem map (f : α → β) (h : SameValue first second) :
    SameValue (first.map f) (second.map f) := by
  rcases h.cases_on with ⟨x, hfirst, hsecond⟩ | ⟨m, m', hfirst, hsecond⟩
  · rw [hfirst, hsecond]
    exact refl _
  · rw [hfirst, hsecond]
    exact errors m m'

end SameValue

/-- The members can be read in either order. -/
def Commute (m m' : Member σ) : Prop :=
  ∀ v v' s, SameValue ((m.set v s).bind (m'.set v')) ((m'.set v' s).bind (m.set v))

theorem Commute.symm {m m' : Member σ} (h : Commute m m') : Commute m' m :=
  fun v v' s => (h v' v s).symm

theorem commute_member {name name' : String} {d : Decoder α} {d' : Decoder β} {put : α → σ → σ}
    {put' : β → σ → σ} (h : ∀ x y s, put' y (put x s) = put x (put' y s)) :
    Commute (member name d put) (member name' d' put') := by
  intro v v' s
  change SameValue (((d v).map fun x => put x s).bind fun s => (d' v').map fun y => put' y s)
    (((d' v').map fun y => put' y s).bind fun s => (d v).map fun x => put x s)
  cases d v with
  | error m =>
      cases d' v' with
      | error m' => exact .errors _ _
      | ok y => exact .errors _ _
  | ok x =>
      cases d' v' with
      | error m' => exact .errors _ _
      | ok y => exact .of_eq (congrArg Except.ok (h x y s))

/-- A null in this place changes nothing. -/
def Untouched (m : Member σ) (s : σ) : Prop := m.set .null s = .ok s

theorem Untouched.of_set {m m' : Member σ} {v : Json} {s s' : σ} (hcommute : Commute m m')
    (h : Untouched m' s) (hset : m.set v s = .ok s') : Untouched m' s' := by
  have hboth := hcommute v .null s s'
  rw [hset, h] at hboth
  exact hboth.2 hset

/-- A record whose members can be read in any order, and whose default is what nulls say. -/
structure Regular (known : List (Member σ)) (default : σ) : Prop where
  distinct : (known.map Member.name).Nodup
  commute : known.Pairwise Commute
  untouched : ∀ m ∈ known, Untouched m default

/-- Reads every declared member, each from what stands under its name. -/
def readEach (known : List (Member σ)) (content : String → Json) (s : σ) : Except Mismatch σ :=
  known.foldlM (fun s m => m.set (content m.name) s) s

/-- What stands under a name, with null for what is missing. -/
def contentOf (object : List (String × Json)) (name : String) : Json :=
  (object.lookup name).getD .null

def readGiven (object : List (String × Json)) (m : Member σ) (s : σ) : Except Mismatch σ :=
  match object.lookup m.name with
  | some v => m.set v s
  | none => .ok s

/-- Reads every declared member that an object has. -/
def readAllGiven (known : List (Member σ)) (object : List (String × Json)) (s : σ) :
    Except Mismatch σ :=
  known.foldlM (fun s m => readGiven object m s) s

section Objects

variable {known : List (Member σ)} {object : List (String × Json)}

theorem readEach_cons (m : Member σ) (content : String → Json) (s : σ) :
    readEach (m :: known) content s =
      (m.set (content m.name) s).bind (readEach known content) := rfl

theorem readAllGiven_cons (m : Member σ) (s : σ) :
    readAllGiven (m :: known) object s = (readGiven object m s).bind (readAllGiven known object) := rfl

theorem readAllGiven_nil (s : σ) : readAllGiven known [] s = .ok s := by
  induction known with
  | nil => rfl
  | cons m rest ih => exact ih

theorem readGiven_of_none {m : Member σ} (h : object.lookup m.name = none) :
    readGiven object m = Except.ok := funext fun s => by rw [readGiven, h]

theorem readGiven_of_some {m : Member σ} {v : Json} (h : object.lookup m.name = some v) :
    readGiven object m = m.set v := funext fun s => by rw [readGiven, h]

theorem readGiven_cons_of_ne {e : String × Json} {m : Member σ} (h : m.name ≠ e.1) (s : σ) :
    readGiven (e :: object) m s = readGiven object m s := by
  rw [readGiven, readGiven, lookup_cons, if_neg h]

theorem readAllGiven_cons_of_forall_ne {e : String × Json} (h : ∀ m ∈ known, m.name ≠ e.1) (s : σ) :
    readAllGiven known (e :: object) s = readAllGiven known object s := by
  induction known generalizing s with
  | nil => rfl
  | cons m rest ih =>
      rw [readAllGiven_cons, readAllGiven_cons, readGiven_cons_of_ne (h m List.mem_cons_self)]
      exact congrArg _ (funext (ih fun m hm => h m (List.mem_cons_of_mem _ hm)))

theorem sameValue_readMember_readGiven {m : Member σ} (h : ∀ m' ∈ known, Commute m m')
    (e : String × Json) (s : σ) :
    SameValue ((readMember known e s).bind (readGiven object m))
      ((readGiven object m s).bind (readMember known e)) := by
  cases hlookup : object.lookup m.name with
  | none =>
      rw [readGiven_of_none hlookup, bind_ok]
      exact .refl _
  | some v =>
      rw [readGiven_of_some hlookup]
      cases hfind : known.find? (·.name == e.1) with
      | none =>
          have hread : readMember known e = Except.ok := funext fun s => by rw [readMember, hfind]
          rw [hread, bind_ok]
          exact .refl _
      | some m' =>
          have hread : readMember known e = m'.set e.2 := funext fun s => by rw [readMember, hfind]
          rw [hread]
          exact (h m' (List.mem_of_find?_eq_some hfind)).symm e.2 v s

/-- A member read before all others is read in its place. -/
theorem sameValue_readMember_readAllGiven {e : String × Json} (hnames : (known.map Member.name).Nodup)
    (hcommute : known.Pairwise Commute) (hlookup : object.lookup e.1 = none) (s : σ) :
    SameValue ((readMember known e s).bind (readAllGiven known object))
      (readAllGiven known (e :: object) s) := by
  induction known generalizing s with
  | nil => exact .refl _
  | cons m rest ih =>
      obtain ⟨hm, hrest⟩ := List.nodup_cons.1 hnames
      obtain ⟨hcommuteM, hcommuteRest⟩ := List.pairwise_cons.1 hcommute
      by_cases hname : e.1 = m.name
      · have hothers : ∀ m' ∈ rest, m'.name ≠ e.1 := by
          intro m' hm' heq
          exact hm (hname ▸ heq ▸ List.mem_map_of_mem hm')
        have hgiven : (e :: object).lookup m.name = some e.2 := by
          rw [lookup_cons, if_pos hname.symm]
        rw [readMember_cons_of_eq hname, readAllGiven_cons, readGiven_of_some hgiven]
        refine SameValue.bind (.refl _) fun s' => .of_eq ?_
        rw [readAllGiven_cons_of_forall_ne hothers, readAllGiven_cons,
          readGiven_of_none (hname ▸ hlookup)]
        rfl
      · rw [readMember_cons_of_ne hname, readAllGiven_cons, readGiven_cons_of_ne (Ne.symm hname)]
        -- The member goes past the first declared one, and from there on by the hypothesis.
        have hpast : SameValue ((readMember rest e s).bind (readGiven object m))
            ((readGiven object m s).bind (readMember rest e)) :=
          sameValue_readMember_readGiven hcommuteM e s
        have hthen := hpast.bind fun s' => SameValue.refl (readAllGiven rest object s')
        have hbehind := SameValue.bind (.refl (readGiven object m s)) (ih hrest hcommuteRest)
        have hassoc : ((readMember rest e s).bind (readGiven object m)).bind
            (readAllGiven rest object) =
              (readMember rest e s).bind (readAllGiven (m :: rest) object) := by
          cases readMember rest e s <;> rfl
        have hassoc' : ((readGiven object m s).bind (readMember rest e)).bind
            (readAllGiven rest object) =
              (readGiven object m s).bind fun s' =>
                (readMember rest e s').bind (readAllGiven rest object) := by
          cases readGiven object m s <;> rfl
        rw [hassoc, hassoc'] at hthen
        exact hthen.trans hbehind

theorem sameValue_members_readAllGiven (hnames : (known.map Member.name).Nodup)
    (hcommute : known.Pairwise Commute) (hobject : (object.map Prod.fst).Nodup) (s : σ) :
    SameValue (members known object s) (readAllGiven known object s) := by
  induction object generalizing s with
  | nil => exact .of_eq (readAllGiven_nil s).symm
  | cons e rest ih =>
      obtain ⟨he, hrest⟩ := List.nodup_cons.1 hobject
      have hlookup : rest.lookup e.1 = none := by
        rw [List.lookup_eq_none_iff]
        intro e' he'
        exact bne_iff_ne.2 fun heq => he (heq ▸ List.mem_map_of_mem he')
      rw [members_cons]
      exact (SameValue.bind (.refl _) (ih hrest)).trans
        (sameValue_readMember_readAllGiven hnames hcommute hlookup s)

/-- What is missing can be read as a null, as long as nothing else changes its part of the record. -/
theorem readAllGiven_eq_readEach (hcommute : known.Pairwise Commute) {s : σ}
    (huntouched : ∀ m ∈ known, Untouched m s) :
    readAllGiven known object s = readEach known (contentOf object) s := by
  induction known generalizing s with
  | nil => rfl
  | cons m rest ih =>
      obtain ⟨hm, hrest⟩ := List.pairwise_cons.1 hcommute
      have hlater : ∀ m' ∈ rest, Untouched m' s :=
        fun m' hm' => huntouched m' (List.mem_cons_of_mem _ hm')
      rw [readAllGiven_cons, readEach_cons, contentOf]
      cases hlookup : object.lookup m.name with
      | none =>
          have hnull : m.set .null s = .ok s := huntouched m List.mem_cons_self
          rw [readGiven_of_none hlookup, Option.getD_none, hnull]
          exact ih hrest hlater
      | some v =>
          rw [readGiven_of_some hlookup, Option.getD_some]
          cases hset : m.set v s with
          | error mismatch => rfl
          | ok s' => exact ih hrest fun m' hm' => (hlater m' hm').of_set (hm m' hm') hset

end Objects

section Arrays

variable {known : List (Member σ)}

theorem values_nil (s : σ) : values known [] s = .ok s := by
  rw [values, List.zip_nil_right]
  rfl

theorem values_cons (m : Member σ) (item : Json) (items : List Json) (s : σ) :
    values (m :: known) (item :: items) s = (m.set item s).bind (values known items) := rfl

theorem values_map (content : String → Json) (s : σ) :
    values known (known.map fun m => content m.name) s = readEach known content s := by
  induction known generalizing s with
  | nil => rfl
  | cons m rest ih =>
      rw [List.map_cons, values_cons, readEach_cons]
      exact congrArg _ (funext ih)

/-- Nulls at the end of an array say nothing. -/
theorem values_append_nulls (hcommute : known.Pairwise Commute) {s : σ}
    (huntouched : ∀ m ∈ known, Untouched m s) (items : List Json) (count : Nat) :
    values known (items ++ List.replicate count .null) s = values known items s := by
  induction known generalizing s items count with
  | nil => rfl
  | cons m rest ih =>
      obtain ⟨hm, hrest⟩ := List.pairwise_cons.1 hcommute
      have hlater : ∀ m' ∈ rest, Untouched m' s :=
        fun m' hm' => huntouched m' (List.mem_cons_of_mem _ hm')
      cases items with
      | nil =>
          cases count with
          | zero => rfl
          | succ count =>
              have hnull : m.set .null s = .ok s := huntouched m List.mem_cons_self
              have hnulls := ih hrest hlater [] count
              rw [List.nil_append, values_nil] at hnulls
              rw [List.nil_append, List.replicate_succ, values_cons, hnull, values_nil]
              exact hnulls
      | cons item items =>
          rw [List.cons_append, values_cons, values_cons]
          cases hset : m.set item s with
          | error mismatch => rfl
          | ok s' => exact ih hrest (fun m' hm' => (hlater m' hm').of_set (hm m' hm') hset) items count

end Arrays

section Records

variable {known : List (Member σ)} {default : σ} (hregular : Regular known default) (title : String)
  {object object' : List (String × Json)}

include hregular

/-- An object is read as its declared members in the order of their declaration. -/
theorem Regular.sameValue_members (hobject : (object.map Prod.fst).Nodup) :
    SameValue (members known object default) (readEach known (contentOf object) default) :=
  (sameValue_members_readAllGiven hregular.distinct hregular.commute hobject default).trans
    (.of_eq (readAllGiven_eq_readEach hregular.commute hregular.untouched))

/-- Objects with the same contents under the declared names are read to the same value. -/
theorem Regular.sameValue_of_contentOf_eq (hobject : (object.map Prod.fst).Nodup)
    (hobject' : (object'.map Prod.fst).Nodup)
    (h : ∀ m ∈ known, contentOf object m.name = contentOf object' m.name) :
    SameValue (record title known default (.object object))
      (record title known default (.object object')) := by
  have heach : readEach known (contentOf object) default =
      readEach known (contentOf object') default := by
    rw [← values_map, ← values_map, List.map_congr_left h]
  refine (hregular.sameValue_members hobject).trans ?_
  rw [heach]
  exact (hregular.sameValue_members hobject').symm

/-- An array that lists the contents of an object, up to nulls at the end, is read to the same value. -/
theorem Regular.sameValue_listed (hobject : (object.map Prod.fst).Nodup) {items : List Json}
    {count : Nat} (h : items ++ List.replicate count .null =
      known.map fun m => contentOf object m.name) :
    SameValue (record title known default (.object object))
      (record title known default (.array items)) := by
  have hlength : ¬ known.length < items.length := by
    have heq := congrArg List.length h
    rw [List.length_append, List.length_map] at heq
    omega
  have hvalues : values known items default = readEach known (contentOf object) default := by
    rw [← values_append_nulls hregular.commute hregular.untouched items count, h, values_map]
  have harray : record title known default (.array items) = values known items default := by
    change (values known items default).bind (fun r =>
      if known.length < items.length then .error (.surplus items.length) else .ok r) = _
    simp only [hlength, ↓reduceIte, bind_ok]
  rw [harray, hvalues]
  exact hregular.sameValue_members hobject

end Records

end Decoder

end FilterQuery
