import FilterQuery.Query.Value

/-!
# What a rendering tells of a value

A pattern is rendered as an object with a text for its source and a text for its options. Documents are
objects as well, with keys that users choose, so in general a document can be taken for a pattern. It
cannot where texts stand behind operators only, since the names inside a rendered pattern are no
operators. Such values (`Legible`) are told apart by their rendering, by induction on pairs of values.

Equality of JSON does not look at the order of members. How floats are compared is left open, so that it
may be by value, where the two zeros are one.
-/

namespace FilterQuery

section

variable (same : Float → Float → Prop)

inductive Number.Alike : Number → Number → Prop where
  | int (n : Int64) : Alike (.int n) (.int n)
  | large (n : UInt64) (above : 0x8000000000000000 ≤ n.toNat) :
      Alike (.large n above) (.large n above)
  | float {x y : Float} {hx : x.isFinite = true} {hy : y.isFinite = true} (h : same x y) :
      Alike (.float x hx) (.float y hy)

/-- Equal as JSON: objects are alike if they have the same names with alike values. -/
inductive Json.Alike : Json → Json → Prop where
  | null : Alike .null .null
  | bool (b : Bool) : Alike (.bool b) (.bool b)
  | number {m n : Number} (h : m.Alike same n) : Alike (.number m) (.number n)
  | string (s : String) : Alike (.string s) (.string s)
  | array {items items' : List Json} (hlength : items.length = items'.length)
      (hitems : ∀ (i : Nat) v w, items[i]? = some v → items'[i]? = some w → Alike v w) :
      Alike (.array items) (.array items')
  | object {members members' : List (String × Json)}
      (hnames : ∀ name, (members.lookup name).isSome = (members'.lookup name).isSome)
      (hmembers : ∀ name v w, members.lookup name = some v → members'.lookup name = some w →
        Alike v w) :
      Alike (.object members) (.object members')

inductive QueryValue.Alike : QueryValue → QueryValue → Prop where
  | null : Alike .null .null
  | bool (b : Bool) : Alike (.bool b) (.bool b)
  | int (n : Int64) : Alike (.int n) (.int n)
  | float {x y : Float} (h : same x y) : Alike (.float x) (.float y)
  | string (s : String) : Alike (.string s) (.string s)
  | regex (p : Pattern) : Alike (.regex p) (.regex p)
  | array {items items' : List QueryValue} (hlength : items.length = items'.length)
      (hitems : ∀ (i : Nat) v w, items[i]? = some v → items'[i]? = some w → Alike v w) :
      Alike (.array items) (.array items')
  | document {entries entries' : List (String × QueryValue)}
      (hkeys : ∀ key, (entries.lookup key).isSome = (entries'.lookup key).isSome)
      (hentries : ∀ key v w, entries.lookup key = some v → entries'.lookup key = some w →
        Alike v w) :
      Alike (.document entries) (.document entries')

def QueryDocument.Alike (doc doc' : QueryDocument) : Prop :=
  QueryValue.Alike same (.ofDocument doc) (.ofDocument doc')

end

section

variable {same : Float → Float → Prop}

theorem Json.Alike.flip {v w : Json} (h : v.Alike same w) : w.Alike (fun x y => same y x) v := by
  induction h with
  | null => exact .null
  | bool b => exact .bool b
  | number h =>
      cases h with
      | int n => exact .number (.int n)
      | large n above => exact .number (.large n above)
      | float h => exact .number (.float h)
  | string s => exact .string s
  | array hlength _ ih => exact .array hlength.symm fun i v w hv hw => ih i w v hw hv
  | object hnames _ ih =>
      exact .object (fun name => (hnames name).symm) fun name v w hv hw => ih name w v hw hv

theorem Json.alike_object_self {members : List (String × Json)}
    (h : ∀ e ∈ members, e.2.Alike same e.2) :
    Json.Alike same (.object members) (.object members) := by
  refine .object (fun _ => rfl) fun name v w hv hw => ?_
  cases hv.symm.trans hw
  obtain ⟨before, after, rfl, -⟩ := List.lookup_eq_some_iff.1 hv
  exact h (name, v) (List.mem_append_right _ List.mem_cons_self)

end

theorem Json.ofFloat_of_isFinite {x : Float} (h : x.isFinite = true) :
    Json.ofFloat x = .number (.float x h) := by
  rw [ofFloat, Number.ofFloat?, dif_pos h]

namespace QueryValue

theorem toJson_float {x : Float} (h : x.isFinite = true) :
    (QueryValue.float x).toJson = .number (.float x h) := by
  rw [toJson, Json.ofFloat_of_isFinite h]

theorem getElem?_toItems (items : List QueryValue) (i : Nat) :
    (toItems items)[i]? = items[i]?.map toJson := by
  induction items generalizing i with
  | nil => rfl
  | cons item rest ih =>
      cases i with
      | zero => rfl
      | succ i => exact ih i

theorem length_toItems (items : List QueryValue) : (toItems items).length = items.length := by
  induction items with
  | nil => rfl
  | cons item rest ih => rw [toItems, List.length_cons, ih, List.length_cons]

theorem lookup_toMembers (entries : List (String × QueryValue)) (key : String) :
    (toMembers entries).lookup key = (entries.lookup key).map toJson := by
  induction entries with
  | nil => rfl
  | cons e rest ih =>
      rw [toMembers, lookup_cons, lookup_cons, ih]
      split <;> rfl

/-- Values that can be read off their rendering: nothing is null or a float without a number, and texts
in documents stand behind operators. -/
inductive Legible : QueryValue → Prop where
  | bool (b : Bool) : Legible (.bool b)
  | int (n : Int64) : Legible (.int n)
  | float {x : Float} (finite : x.isFinite = true) : Legible (.float x)
  | string (s : String) : Legible (.string s)
  | regex (p : Pattern) : Legible (.regex p)
  | array {items : List QueryValue} (hitems : ∀ v ∈ items, Legible v) : Legible (.array items)
  | document {entries : List (String × QueryValue)} (hascending : Ascending entries)
      (htexts : ∀ e ∈ entries, ∀ s, e.2 = .string s → isOperator e.1 = true)
      (hentries : ∀ e ∈ entries, Legible e.2) : Legible (.document entries)

section

variable {same : Float → Float → Prop}

theorem eq_string_of_toJson_alike {v : QueryValue} {s : String}
    (h : Json.Alike same (.string s) v.toJson) : v = .string s := by
  cases v with
  | string t =>
      cases h
      rfl
  | float x =>
      rw [toJson, Json.ofFloat] at h
      split at h <;> cases h
  | _ => cases h

theorem regex_eq_of_toJson_alike {p p' : Pattern}
    (h : Json.Alike same (patternJson p) (patternJson p')) : p = p' := by
  cases h with
  | object _ hmembers =>
      cases hmembers "$regularExpression" _ _ rfl rfl with
      | object _ hparts =>
          have hsource := hparts "pattern" _ _ rfl rfl
          have hoptions := hparts "options" _ _ rfl rfl
          obtain ⟨source, options⟩ := p
          obtain ⟨source', options'⟩ := p'
          cases hsource
          cases hoptions
          rfl

/-- A member of an object is found again in a document that is rendered like it. -/
theorem exists_of_toMembers_alike {members : List (String × Json)}
    {entries : List (String × QueryValue)}
    (h : Json.Alike same (.object members) (.object (toMembers entries))) {name : String} {v : Json}
    (hv : members.lookup name = some v) :
    ∃ w, entries.lookup name = some w ∧ Json.Alike same v w.toJson := by
  cases h with
  | object hnames hmembers =>
      have hthere := hnames name
      rw [hv, lookup_toMembers, Option.isSome_map, Option.isSome_some] at hthere
      obtain ⟨w, hw⟩ := Option.isSome_iff_exists.1 hthere.symm
      refine ⟨w, hw, hmembers name v w.toJson hv ?_⟩
      rw [lookup_toMembers, hw, Option.map_some]

/-- What is rendered like a pattern has a text under a name that is no operator. -/
theorem not_alike_patternJson {p : Pattern} {entries : List (String × QueryValue)}
    (hlegible : Legible (.document entries)) :
    ¬ Json.Alike same (patternJson p) (.object (toMembers entries)) := by
  intro h
  obtain ⟨inner, hinner, hparts⟩ := exists_of_toMembers_alike h (List.lookup_cons_self ..)
  cases hlegible with
  | document hascending _ hentries =>
      have hlegibleInner : Legible inner := hentries _ ((lookup_eq_some_iff hascending).1 hinner)
      cases hlegibleInner with
      | @document parts hpartsAscending htexts _ =>
          obtain ⟨source, hsource, hsame⟩ :=
            exists_of_toMembers_alike hparts (List.lookup_cons_self ..)
          have hmem := (lookup_eq_some_iff hpartsAscending).1 hsource
          have hfield : isOperator "pattern" = false := by decide
          exact absurd (htexts _ hmem _ (eq_string_of_toJson_alike hsame)) (by simp [hfield])
      | regex p' =>
          -- inside a rendered pattern there is no second one
          cases hparts with
          | object hnames _ => exact Bool.noConfusion (hnames "pattern")
      | float finite =>
          rw [toJson_float finite] at hparts
          cases hparts
      | _ => cases hparts

/-- Legible values are told apart by their rendering. -/
theorem alike_of_toJson_alike {v w : QueryValue} (hv : Legible v) (hw : Legible w)
    (h : Json.Alike same v.toJson w.toJson) : v.Alike same w := by
  induction hv generalizing w with
  | bool b =>
      cases hw with
      | bool b' =>
          cases h
          exact .bool b
      | float finite =>
          rw [toJson_float finite] at h
          cases h
      | _ => cases h
  | int n =>
      cases hw with
      | int n' =>
          cases h with
          | number hn =>
              cases hn
              exact .int n
      | float finite =>
          rw [toJson_float finite] at h
          cases h with
          | number hn => cases hn
      | _ => cases h
  | float finite =>
      rw [toJson_float finite] at h
      cases hw with
      | float finite' =>
          rw [toJson_float finite'] at h
          cases h with
          | number hn =>
              cases hn with
              | float hsame => exact .float hsame
      | int n =>
          cases h with
          | number hn => cases hn
      | _ => cases h
  | string s =>
      rw [eq_string_of_toJson_alike h]
      exact .string s
  | regex p =>
      cases hw with
      | regex p' =>
          rw [regex_eq_of_toJson_alike h]
          exact .regex p'
      | float finite =>
          rw [toJson_float finite] at h
          cases h
      | @document entries hascending htexts hentries =>
          exact absurd h (not_alike_patternJson (.document hascending htexts hentries))
      | _ => cases h
  | @array items hitems ih =>
      cases hw with
      | @array items' hitems' =>
          cases h with
          | array hlength halike =>
              rw [length_toItems, length_toItems] at hlength
              refine .array hlength fun i v w hv hw => ?_
              refine ih v (List.mem_of_getElem? hv) (hitems' w (List.mem_of_getElem? hw)) ?_
              refine halike i v.toJson w.toJson ?_ ?_
              · rw [getElem?_toItems, hv, Option.map_some]
              · rw [getElem?_toItems, hw, Option.map_some]
      | float finite =>
          rw [toJson_float finite] at h
          cases h
      | _ => cases h
  | @document entries hascending htexts hentries ih =>
      cases hw with
      | @document entries' hascending' _ hentries' =>
          cases h with
          | object hnames hmembers =>
              refine .document (fun key => ?_) fun key v w hv hw => ?_
              · have hname := hnames key
                rwa [lookup_toMembers, lookup_toMembers, Option.isSome_map, Option.isSome_map] at hname
              · refine ih _ ((lookup_eq_some_iff hascending).1 hv)
                  (hentries' _ ((lookup_eq_some_iff hascending').1 hw)) ?_
                refine hmembers key v.toJson w.toJson ?_ ?_
                · rw [lookup_toMembers, hv, Option.map_some]
                · rw [lookup_toMembers, hw, Option.map_some]
      | regex p =>
          exact absurd h.flip (not_alike_patternJson (.document hascending htexts hentries))
      | float finite =>
          rw [toJson_float finite] at h
          cases h
      | _ => cases h

theorem patternJson_alike (p : Pattern) : Json.Alike same (patternJson p) (patternJson p) := by
  refine Json.alike_object_self fun e he => ?_
  rw [List.mem_singleton.1 he]
  refine Json.alike_object_self fun e he => ?_
  rcases List.mem_cons.1 he with rfl | he
  · exact .string p.source
  · rw [List.mem_singleton.1 he]
    exact .string p.options

/-- Alike values are rendered alike. -/
theorem toJson_alike_of_alike {v w : QueryValue} (hv : Legible v) (hw : Legible w)
    (h : v.Alike same w) : Json.Alike same v.toJson w.toJson := by
  induction h with
  | null => exact .null
  | bool b => exact .bool b
  | int n => exact .number (.int n)
  | float hsame =>
      cases hv with
      | float finite =>
          cases hw with
          | float finite' =>
              rw [toJson_float finite, toJson_float finite']
              exact .number (.float hsame)
  | string s => exact .string s
  | regex p => exact patternJson_alike p
  | array hlength _ ih =>
      cases hv with
      | array hitems =>
          cases hw with
          | array hitems' =>
              refine .array ?_ fun i j k hj hk => ?_
              · rw [length_toItems, length_toItems, hlength]
              · rw [getElem?_toItems] at hj hk
                obtain ⟨v, hv, rfl⟩ := Option.map_eq_some_iff.1 hj
                obtain ⟨w, hw, rfl⟩ := Option.map_eq_some_iff.1 hk
                exact ih i v w hv hw (hitems v (List.mem_of_getElem? hv))
                  (hitems' w (List.mem_of_getElem? hw))
  | document hkeys _ ih =>
      cases hv with
      | document hascending _ hentries =>
          cases hw with
          | document hascending' _ hentries' =>
              refine .object (fun key => ?_) fun key j k hj hk => ?_
              · rw [lookup_toMembers, lookup_toMembers, Option.isSome_map, Option.isSome_map, hkeys]
              · rw [lookup_toMembers] at hj hk
                obtain ⟨v, hv, rfl⟩ := Option.map_eq_some_iff.1 hj
                obtain ⟨w, hw, rfl⟩ := Option.map_eq_some_iff.1 hk
                exact ih key v w hv hw (hentries _ ((lookup_eq_some_iff hascending).1 hv))
                  (hentries' _ ((lookup_eq_some_iff hascending').1 hw))

end

/-- All documents in it have their keys in ascending order. -/
inductive Ordered : QueryValue → Prop where
  | null : Ordered .null
  | bool (b : Bool) : Ordered (.bool b)
  | int (n : Int64) : Ordered (.int n)
  | float (x : Float) : Ordered (.float x)
  | string (s : String) : Ordered (.string s)
  | regex (p : Pattern) : Ordered (.regex p)
  | array {items : List QueryValue} (hitems : ∀ v ∈ items, Ordered v) : Ordered (.array items)
  | document {entries : List (String × QueryValue)} (hascending : Ascending entries)
      (hentries : ∀ e ∈ entries, Ordered e.2) : Ordered (.document entries)

theorem Legible.ordered {v : QueryValue} (h : Legible v) : Ordered v := by
  induction h with
  | bool b => exact .bool b
  | int n => exact .int n
  | float _ => exact .float _
  | string s => exact .string s
  | regex p => exact .regex p
  | array _ ih => exact .array ih
  | document hascending _ _ ih => exact .document hascending ih

/-- Where floats are compared one by one, alike values are equal. -/
theorem Ordered.eq_of_alike {v w : QueryValue} (hv : Ordered v) (hw : Ordered w)
    (h : v.Alike (· = ·) w) : v = w := by
  induction h with
  | null => rfl
  | bool b => rfl
  | int n => rfl
  | float hsame => rw [hsame]
  | string s => rfl
  | regex p => rfl
  | @array items items' hlength _ ih =>
      cases hv with
      | array hitems =>
          cases hw with
          | array hitems' =>
              congr 1
              refine List.ext_getElem hlength fun i hi hi' => ?_
              have hv := List.getElem?_eq_getElem hi
              have hw := List.getElem?_eq_getElem hi'
              exact ih i _ _ hv hw (hitems _ (List.mem_of_getElem? hv))
                (hitems' _ (List.mem_of_getElem? hw))
  | @document entries entries' hkeys _ ih =>
      cases hv with
      | document hascending hentries =>
          cases hw with
          | document hascending' hentries' =>
              have hlookup : ∀ key, entries.lookup key = entries'.lookup key := by
                intro key
                have hkey := hkeys key
                cases hv : entries.lookup key with
                | none =>
                    rw [hv] at hkey
                    exact (Option.isNone_iff_eq_none.1 (Option.isSome_eq_false_iff.1 hkey.symm)).symm
                | some v =>
                    rw [hv] at hkey
                    obtain ⟨w, hw⟩ := Option.isSome_iff_exists.1 hkey.symm
                    rw [hw, ih key v w hv hw (hentries _ ((lookup_eq_some_iff hascending).1 hv))
                      (hentries' _ ((lookup_eq_some_iff hascending').1 hw))]
              congr 1
              refine eq_of_mem_iff hascending hascending' fun e => ?_
              rw [← lookup_eq_some_iff hascending, hlookup, lookup_eq_some_iff hascending']

theorem eq_of_alike {v w : QueryValue} (hv : Legible v) (hw : Legible w)
    (h : v.Alike (· = ·) w) : v = w :=
  hv.ordered.eq_of_alike hw.ordered h

theorem Ordered.alike_refl {v : QueryValue} (hv : Ordered v) : v.Alike (· = ·) v := by
  induction hv with
  | null => exact .null
  | bool b => exact .bool b
  | int n => exact .int n
  | float x => exact .float rfl
  | string s => exact .string s
  | regex p => exact .regex p
  | array hitems ih =>
      refine .array rfl fun i v w hv hw => ?_
      cases hv.symm.trans hw
      exact ih v (List.mem_of_getElem? hv)
  | document hascending _ ih =>
      refine .document (fun _ => rfl) fun key v w hv hw => ?_
      cases hv.symm.trans hw
      exact ih _ ((lookup_eq_some_iff hascending).1 hv)

theorem Legible.alike_refl {v : QueryValue} (hv : Legible v) : v.Alike (· = ·) v :=
  hv.ordered.alike_refl

end QueryValue

end FilterQuery
