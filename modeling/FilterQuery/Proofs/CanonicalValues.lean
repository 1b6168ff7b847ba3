import FilterQuery.Proofs.WholeFloats

/-!
# Canonical values

A value has a canonical form if writing it and sorting it again gives it back. What could get lost is a
float that JSON has no number for, a pair without a key, which would be taken for an object without a
meaning, and such an object where it has a key after all. None of this comes out of `RequestValue.ofJson`,
and so a value that comes back has a canonical form, too.
-/

namespace FilterQuery

namespace RequestValue

inductive Canonical : RequestValue → Prop where
  | null : Canonical .null
  | bool (b : Bool) : Canonical (.bool b)
  | int (n : Int64) : Canonical (.int n)
  | float {x : Float} (finite : x.isFinite = true) : Canonical (.float x)
  | string (s : String) : Canonical (.string s)
  | pair {key : String} {value : RequestValue} (hkey : key ≠ "") (hvalue : Canonical value) :
      Canonical (.pair key value)
  | array {items : List RequestValue} (hitems : ∀ v ∈ items, Canonical v) :
      Canonical (.array items)
  | unsupported {members : List (String × Json)}
      (hkey : ∀ key, members.lookup "key" = some (.string key) → key = "") :
      Canonical (.unsupported (.object members))

theorem canonical_ofNumber (n : Number) : (ofNumber n).Canonical := by
  cases n with
  | int n => exact .int n
  | large n above => exact .float (isFinite_toFloat n)
  | float x finite => exact .float finite

mutual

theorem canonical_ofJson : (v : Json) → (ofJson v).Canonical
  | .null => .null
  | .bool b => .bool b
  | .number n => canonical_ofNumber n
  | .string s => .string s
  | .array items => .array (canonical_ofItems items)
  | .object members => by
      rw [ofJson]
      split
      · split
        case isTrue hlookup hempty =>
          refine .unsupported fun key hkey => ?_
          rw [hlookup] at hkey
          cases hkey
          exact hempty
        case isFalse hlookup hkey => exact .pair hkey (canonical_ofMember "value" members)
      case h_2 hother => exact .unsupported fun key hkey => absurd hkey (hother key)

theorem canonical_ofItems : (items : List Json) → ∀ v ∈ ofItems items, Canonical v
  | [] => fun _ hv => absurd hv List.not_mem_nil
  | item :: rest => by
      intro v hv
      rcases List.mem_cons.1 hv with rfl | hv
      · exact canonical_ofJson item
      · exact canonical_ofItems rest v hv

theorem canonical_ofMember (name : String) :
    (members : List (String × Json)) → (ofMember name members).Canonical
  | [] => .null
  | (k, v) :: rest => by
      rw [ofMember]
      split
      · exact canonical_ofJson v
      · exact canonical_ofMember name rest

end

/-- Writing a canonical value loses nothing. -/
theorem ofJson_toJson {v : RequestValue} (h : v.Canonical) : ofJson v.toJson = v := by
  induction h with
  | null => rfl
  | bool b => rfl
  | int n => rfl
  | float finite =>
      rw [toJson, Json.ofFloat, Number.ofFloat?, dif_pos finite]
      rfl
  | string s => rfl
  | pair hkey _ ih =>
      rw [toJson, ofJson]
      change (if _ = "" then _ else pair _ (ofJson _)) = _
      rw [if_neg hkey, ih]
  | array hitems ih =>
      rw [toJson, ofJson, ofItems_eq_map, toItems_eq_map, List.map_map]
      exact congrArg array ((List.map_congr_left ih).trans (List.map_id _))
  | @unsupported members hkey =>
      rw [toJson, ofJson]
      split
      case h_1 key hlookup => rw [if_pos (hkey key hlookup)]
      · rfl

/-- The value itself and what it holds at any depth. JSON without a meaning is not looked into. -/
inductive Part (whole : RequestValue) : RequestValue → Prop
  | self : Part whole whole
  | value {key : String} {value : RequestValue} (h : Part whole (.pair key value)) : Part whole value
  | item {items : List RequestValue} {v : RequestValue} (h : Part whole (.array items))
      (hv : v ∈ items) : Part whole v

theorem Part.trans {whole v w : RequestValue} (hv : whole.Part v) (hw : v.Part w) : whole.Part w := by
  induction hw with
  | self => exact hv
  | value _ ih => exact .value ih
  | item _ hmem ih => exact .item ih hmem

/-- The conditions of a canonical value that concern none of its other parts. -/
def IsSound : RequestValue → Prop
  | .float x => x.isFinite = true
  | .pair key _ => key ≠ ""
  | .unsupported raw =>
    ∃ members, raw = .object members ∧ ∀ key, members.lookup "key" = some (.string key) → key = ""
  | _ => True

theorem Canonical.isSound {v : RequestValue} (h : v.Canonical) : v.IsSound := by
  cases h with
  | float finite => exact finite
  | pair hkey _ => exact hkey
  | unsupported hkey => exact ⟨_, rfl, hkey⟩
  | _ => trivial

theorem Canonical.of_part {v w : RequestValue} (h : v.Canonical) (hw : v.Part w) : w.Canonical := by
  induction hw with
  | self => exact h
  | value _ ih =>
      cases ih with
      | pair _ hvalue => exact hvalue
  | item _ hmem ih =>
      cases ih with
      | array hitems => exact hitems _ hmem

mutual

theorem canonical_of_parts (v : RequestValue) (h : ∀ w, v.Part w → w.IsSound) : v.Canonical := by
  cases v with
  | null => exact .null
  | bool b => exact .bool b
  | int n => exact .int n
  | float x => exact .float (h _ .self)
  | string s => exact .string s
  | pair key value =>
      have hvalue := canonical_of_parts value fun w hw => h w (.trans (.value .self) hw)
      exact .pair (h _ .self) hvalue
  | array items =>
      exact .array (canonical_of_items items fun v hv w hw => h w (.trans (.item .self hv) hw))
  | unsupported raw =>
      obtain ⟨members, rfl, hkey⟩ := h _ .self
      exact .unsupported hkey

theorem canonical_of_items (items : List RequestValue)
    (h : ∀ v ∈ items, ∀ w, v.Part w → w.IsSound) : ∀ v ∈ items, v.Canonical := by
  cases items with
  | nil => exact fun v hv => absurd hv List.not_mem_nil
  | cons item rest =>
      obtain ⟨hitem, hrest⟩ := List.forall_mem_cons.1 h
      exact List.forall_mem_cons.2
        ⟨canonical_of_parts item hitem, canonical_of_items rest hrest⟩

end

theorem canonical_iff (v : RequestValue) :
    v.Canonical ↔
      (∀ x, v.Part (.float x) → x.isFinite = true) ∧
        (∀ key value, v.Part (.pair key value) → key ≠ "") ∧
        ∀ raw, v.Part (.unsupported raw) → ∃ members, raw = .object members ∧
          ∀ key, members.lookup "key" = some (.string key) → key = "" := by
  constructor
  · intro h
    have hsound : ∀ w, v.Part w → w.IsSound := fun w hw => (h.of_part hw).isSound
    exact ⟨fun x => hsound (.float x), fun key value => hsound (.pair key value),
      fun raw => hsound (.unsupported raw)⟩
  · rintro ⟨hfloats, hkeys, hraws⟩
    refine v.canonical_of_parts fun w hw => ?_
    cases w with
    | float x => exact hfloats x hw
    | pair key value => exact hkeys key value hw
    | unsupported raw => exact hraws raw hw
    | _ => trivial

/-- **Canonical values and no others come back.** A value that is written and sorted again is the same
if and only if it is canonical: every float in it is finite, every pair has a key, and what has no
meaning is an object without one. All that sorting yields is canonical, whatever the JSON was, so to
write it and to sort it again changes nothing more. -/
theorem canonical_values_come_back :
    (∀ v : RequestValue, v.Canonical ↔
      (∀ x, v.Part (.float x) → x.isFinite = true) ∧
        (∀ key value, v.Part (.pair key value) → key ≠ "") ∧
        ∀ raw, v.Part (.unsupported raw) → ∃ members, raw = .object members ∧
          ∀ key, members.lookup "key" = some (.string key) → key = "") ∧
      (∀ v : RequestValue, ofJson v.toJson = v ↔ v.Canonical) ∧
      ∀ j : Json, (ofJson j).Canonical ∧ ofJson (ofJson j).toJson = ofJson j := by
  refine ⟨canonical_iff, fun v => ⟨fun hback => ?_, ofJson_toJson⟩, fun j => ?_⟩
  · rw [← hback]
    exact canonical_ofJson v.toJson
  · exact ⟨canonical_ofJson j, ofJson_toJson (canonical_ofJson j)⟩

/-- Other members of a pair are lost, and a missing value is there as a null afterwards. -/
example : (ofJson (.object [("note", .bool true), ("key", .string "a")])).toJson =
    .object [("key", .string "a"), ("value", .null)] := rfl

end RequestValue

end FilterQuery
