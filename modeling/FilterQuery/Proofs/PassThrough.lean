import FilterQuery.Proofs.DistinctNames
import FilterQuery.Proofs.Legibility
import FilterQuery.Proofs.Losses
import FilterQuery.Proofs.WholeFloats
import Mathlib.Data.List.Basic

/-!
# Bounds as they stand

The bounds of a range are JSON of any kind, which the document of the range takes over as it stands and
renders as JSON again. On the way an object becomes a document, whose keys are sorted, and a whole number
that the signed range does not hold becomes a float. The rendering of a bound is therefore, up to the
order of members, the bound with its large numbers rounded, and since a float is never rendered as a
whole number, it is the bound itself if and only if there is none.
-/

namespace FilterQuery

open Draft

/-- The number, or the float it becomes where the signed range does not hold it. -/
def Number.rounded : Number → Number
  | .large n _ => .float n.toFloat (isFinite_toFloat n)
  | n => n

namespace Json

mutual

/-- The same JSON with every large number rounded. -/
def rounded : Json → Json
  | .number n => .number n.rounded
  | .array items => .array (roundedItems items)
  | .object members => .object (roundedMembers members)
  | v => v

def roundedItems : List Json → List Json
  | [] => []
  | item :: rest => rounded item :: roundedItems rest

def roundedMembers : List (String × Json) → List (String × Json)
  | [] => []
  | (k, v) :: rest => (k, rounded v) :: roundedMembers rest

end

/-- At some depth there is a whole number above the signed range. -/
inductive HasLarge : Json → Prop where
  | number (n : UInt64) (above : 0x8000000000000000 ≤ n.toNat) : HasLarge (.number (.large n above))
  | item {items : List Json} {v : Json} (hv : v ∈ items) (h : HasLarge v) : HasLarge (.array items)
  | member {members : List (String × Json)} {name : String} {v : Json} (hv : (name, v) ∈ members)
      (h : HasLarge v) : HasLarge (.object members)

theorem roundedItems_eq_map (items : List Json) : roundedItems items = items.map rounded := by
  induction items with
  | nil => rfl
  | cons item rest ih => rw [roundedItems, ih, List.map_cons]

theorem roundedMembers_eq_map (members : List (String × Json)) :
    roundedMembers members = members.map fun e => (e.1, e.2.rounded) := by
  induction members with
  | nil => rfl
  | cons e rest ih => rw [roundedMembers, ih, List.map_cons]

theorem lookup_roundedMembers (members : List (String × Json)) (name : String) :
    (roundedMembers members).lookup name = (members.lookup name).map rounded := by
  induction members with
  | nil => rfl
  | cons e rest ih =>
      rw [roundedMembers, lookup_cons, lookup_cons, ih]
      split <;> rfl

/-- Rounding changes large numbers only. -/
theorem Distinct.rounded_eq {v : Json} (h : v.Distinct) (hlarge : ¬ v.HasLarge) : v.rounded = v := by
  induction h with
  | number n =>
      cases n with
      | large n above => exact absurd (.number n above) hlarge
      | _ => rfl
  | @array items _ ih =>
      have hitems : ∀ item ∈ items, item.rounded = item := fun item hitem =>
        ih item hitem fun hinside => hlarge (.item hitem hinside)
      rw [rounded, roundedItems_eq_map, List.map_congr_left hitems, List.map_id']
  | @object members _ _ ih =>
      have hmembers : ∀ e ∈ members, (e.1, e.2.rounded) = e := fun e he => by
        rw [ih e he fun hinside => hlarge (.member he hinside)]
      rw [rounded, roundedMembers_eq_map, List.map_congr_left hmembers, List.map_id']
  | _ => rfl

end Json

namespace QueryValue

theorem lookup_reverse_of_nodup {α : Type} {entries : List (String × α)}
    (h : (entries.map Prod.fst).Nodup) (key : String) :
    entries.reverse.lookup key = entries.lookup key := by
  have hreverse : (entries.reverse.map Prod.fst).Nodup := by
    rw [List.map_reverse]
    exact List.nodup_reverse.2 h
  ext value
  rw [lookup_eq_some_iff_of_nodup hreverse, lookup_eq_some_iff_of_nodup h, List.mem_reverse]

theorem lookup_ofMembers (members : List (String × Json)) (entries : List (String × QueryValue))
    (key : String) : (ofMembers members entries).lookup key =
      ((members.reverse.lookup key).map ofJson).or (entries.lookup key) := by
  induction members generalizing entries with
  | nil => rfl
  | cons e rest ih =>
      obtain ⟨k, v⟩ := e
      rw [ofMembers, ih, lookup_insertEntry, List.reverse_cons, List.lookup_append, lookup_cons]
      cases rest.reverse.lookup key with
      | some w => rfl
      | none =>
          by_cases hkey : key = k
          · simp [hkey]
          · simp [hkey]

/-- The document of an object without repetition has the values of its members. -/
theorem lookup_ofMembers_nil {members : List (String × Json)}
    (h : (members.map Prod.fst).Nodup) (key : String) :
    (ofMembers members []).lookup key = (members.lookup key).map ofJson := by
  rw [lookup_ofMembers, lookup_reverse_of_nodup h, List.lookup_nil, Option.or_none]

theorem ofItems_eq_map (items : List Json) : ofItems items = items.map ofJson := by
  induction items with
  | nil => rfl
  | cons item rest ih => rw [ofItems, ih, List.map_cons]

theorem toJson_ofNumber (n : Number) : (QueryValue.ofNumber n).toJson = .number n.rounded := by
  cases n with
  | int n => rfl
  | large n above => exact toJson_float (isFinite_toFloat n)
  | float x finite => exact toJson_float finite

/-- What is rendered is the JSON that was taken over, with its large numbers rounded. -/
theorem toJson_ofJson_alike {v : Json} (h : v.Distinct) :
    Json.Alike (· = ·) (ofJson v).toJson v.rounded := by
  induction h with
  | null => exact .null
  | bool b => exact .bool b
  | number n =>
      rw [ofJson, toJson_ofNumber, Json.rounded]
      refine .number ?_
      cases n.rounded with
      | int n => exact .int n
      | large n above => exact .large n above
      | float x finite => exact .float rfl
  | string s => exact .string s
  | @array items _ ih =>
      rw [ofJson, toJson, Json.rounded, Json.roundedItems_eq_map, ofItems_eq_map]
      refine .array ?_ fun i j k hj hk => ?_
      · rw [length_toItems, List.length_map, List.length_map]
      · rw [getElem?_toItems, List.getElem?_map] at hj
        rw [List.getElem?_map] at hk
        obtain ⟨v, hv, rfl⟩ := Option.map_eq_some_iff.1 hk
        rw [hv] at hj
        cases hj
        exact ih v (List.mem_of_getElem? hv)
  | @object members hnames _ ih =>
      rw [ofJson, toJson, Json.rounded]
      refine .object (fun name => ?_) fun name j k hj hk => ?_
      · rw [lookup_toMembers, lookup_ofMembers_nil hnames, Json.lookup_roundedMembers,
          Option.isSome_map, Option.isSome_map, Option.isSome_map]
      · rw [lookup_toMembers, lookup_ofMembers_nil hnames] at hj
        rw [Json.lookup_roundedMembers] at hk
        obtain ⟨v, hv, rfl⟩ := Option.map_eq_some_iff.1 hk
        rw [hv] at hj
        cases hj
        exact ih (name, v) ((lookup_eq_some_iff_of_nodup hnames).1 hv)

/-- A large number does not come back, so JSON that holds one is rendered otherwise. -/
theorem not_toJson_ofJson_alike {same : Float → Float → Prop} {v : Json} (hlarge : v.HasLarge)
    (hdistinct : v.Distinct) : ¬ Json.Alike same (ofJson v).toJson v := by
  induction hlarge with
  | number n above =>
      intro halike
      rw [ofJson, toJson_ofNumber] at halike
      cases halike with
      | number hnumber => cases hnumber
  | @item items v hv _ ih =>
      cases hdistinct with
      | array hitems =>
          intro halike
          rw [ofJson, toJson, ofItems_eq_map] at halike
          cases halike with
          | array _ hparts =>
              obtain ⟨i, hi⟩ := List.mem_iff_getElem?.1 hv
              refine ih (hitems v hv) (hparts i _ v ?_ hi)
              rw [getElem?_toItems, List.getElem?_map, hi]
              rfl
  | @member members name v hv _ ih =>
      cases hdistinct with
      | object hnames hmembers =>
          intro halike
          rw [ofJson, toJson] at halike
          cases halike with
          | object _ hparts =>
              have hfound := (lookup_eq_some_iff_of_nodup hnames).2 hv
              refine ih (hmembers _ hv) (hparts name _ v ?_ hfound)
              rw [lookup_toMembers, lookup_ofMembers_nil hnames, hfound]
              rfl

theorem toJson_ofJson_alike_iff {v : Json} (h : v.Distinct) :
    Json.Alike (· = ·) (ofJson v).toJson v ↔ ¬ v.HasLarge := by
  constructor
  · intro halike hlarge
    exact not_toJson_ofJson_alike hlarge h halike
  · intro hlarge
    have halike := toJson_ofJson_alike h
    rwa [h.rounded_eq hlarge] at halike

end QueryValue

theorem Json.isNull_eq_false_iff {v : Json} : v.isNull = false ↔ v ≠ .null := by
  cases v with
  | null => exact ⟨fun h => Bool.noConfusion h, fun h => absurd rfl h⟩
  | _ => exact ⟨fun _ => Json.noConfusion, fun _ => rfl⟩

namespace Bounds

/-- The bound stands behind the operator, and it is not a null. -/
def HasBound (b : Bounds) (op : String) (bound : Json) : Prop :=
  (op, some bound) ∈ [("$gt", b.gt), ("$lt", b.lt), ("$gte", b.gte), ("$lte", b.lte)] ∧
    bound ≠ .null

/-- The operators and the values that the document is made of. -/
def present (b : Bounds) : List (String × QueryValue) :=
  b.operators.filterMap fun o =>
    (o.2.filter fun v => !v.isNull).map fun v => (o.1, QueryValue.ofJson v)

theorem document_eq (b : Bounds) : b.document = .ofList b.present := rfl

theorem mem_present_iff {b : Bounds} {op : String} {q : QueryValue} :
    (op, q) ∈ b.present ↔ ∃ bound, b.HasBound op bound ∧ q = .ofJson bound := by
  rw [present, List.mem_filterMap]
  constructor
  · rintro ⟨⟨op', bound?⟩, hop, hsome⟩
    obtain ⟨v, hv, heq⟩ := Option.map_eq_some_iff.1 hsome
    obtain ⟨rfl, hkept⟩ := Option.filter_eq_some_iff.1 hv
    cases heq
    have hnull : v.isNull = false := by simpa using hkept
    exact ⟨v, ⟨hop, Json.isNull_eq_false_iff.1 hnull⟩, rfl⟩
  · rintro ⟨v, ⟨hop, hnull⟩, rfl⟩
    refine ⟨(op, some v), hop, ?_⟩
    have hkept : (some v).filter (fun v => !v.isNull) = some v := by
      rw [Option.filter_some, Json.isNull_eq_false_iff.2 hnull]
      rfl
    rw [hkept]
    rfl

/-- The four operators differ, so no key is there twice. -/
theorem nodup_keys_present (b : Bounds) : (b.present.map Prod.fst).Nodup := by
  have hoperators : b.operators.Pairwise fun o o' => o.1 ≠ o'.1 := by
    have hnames : (b.operators.map Prod.fst).Nodup := by
      change ["$gt", "$lt", "$gte", "$lte"].Nodup
      decide
    exact List.pairwise_map.1 hnames
  refine List.pairwise_map.2 (hoperators.filterMap _ ?_)
  rintro o o' hne e he e' he'
  obtain ⟨v, -, rfl⟩ := Option.map_eq_some_iff.1 he
  obtain ⟨v', -, rfl⟩ := Option.map_eq_some_iff.1 he'
  exact hne

theorem get?_document_eq_some_iff {b : Bounds} {op : String} {q : QueryValue} :
    b.document.get? op = some q ↔ ∃ bound, b.HasBound op bound ∧ q = .ofJson bound := by
  rw [document_eq, KeyMap.get?_ofList, QueryValue.lookup_reverse_of_nodup b.nodup_keys_present,
    lookup_eq_some_iff_of_nodup b.nodup_keys_present, mem_present_iff]

theorem contains_document_iff {b : Bounds} {op : String} :
    b.document.contains op = true ↔ ∃ bound, b.HasBound op bound := by
  rw [KeyMap.contains, Option.isSome_iff_exists]
  simp only [get?_document_eq_some_iff]
  constructor
  · rintro ⟨q, bound, hbound, -⟩
    exact ⟨bound, hbound⟩
  · rintro ⟨bound, hbound⟩
    exact ⟨_, bound, hbound, rfl⟩

theorem isEmpty_document_iff {b : Bounds} :
    b.document.isEmpty = true ↔ ¬ ∃ op bound, b.HasBound op bound := by
  rw [document_eq, KeyMap.isEmpty_ofList_iff, List.eq_nil_iff_forall_not_mem]
  constructor
  · rintro hnone ⟨op, bound, hbound⟩
    exact hnone (op, .ofJson bound) (mem_present_iff.2 ⟨bound, hbound, rfl⟩)
  · intro hnone e he
    obtain ⟨bound, hbound, -⟩ := mem_present_iff.1 he
    exact hnone ⟨e.1, bound, hbound⟩

end Bounds

section Library

variable [RegexLibrary]

theorem Entry.said_range {key : String} (hkey : Text.isBlank key = false) (b : Bounds) :
    (Entry.range ⟨key, some b⟩).said =
      if b.document.isEmpty then [⟨.range, key, .emptyRange⟩] else [] := by
  have hfaults : faultReports .range key (.ofDocument b.document) = [] := by
    rw [faultReports, QueryValue.patternFaults, b.patterns_document]
    rfl
  simp only [said, history, notes, clause?, hkey, Bool.false_eq_true, ↓reduceIte, Option.map_some,
    Option.toList_some, List.map_cons, List.map_nil, List.flatMap_append, List.flatMap_cons,
    List.flatMap_nil, Action.diagnostics, hfaults, List.nil_append, List.append_nil, category]
  cases b.document.isEmpty with
  | true => rfl
  | false => rfl

/-- **Bounds pass through.** A range with a key, compiled alone, becomes one clause, the document of the
bounds that are there and no nulls, each under its operator. Nothing is reported unless there is no such
bound; then the document is empty, and that is reported. Each of the bounds is rendered as the same JSON
with its large numbers rounded, so as itself if and only if it holds none at any depth. No object in it
may have a name twice, as none has that was read (`Json.distinct_of_read`). -/
theorem bounds_pass_through {key : String} (hkey : Text.isBlank key = false) (b : Bounds) :
    ∃ (c : Compiled) (doc : QueryDocument),
      (Request.ofEntries [.range ⟨key, some b⟩]).compile false = .ok c ∧
      c.clauses.entries = [(key, .ofDocument doc)] ∧
      (∀ op, doc.contains op = true ↔ ∃ bound, b.HasBound op bound) ∧
      ((∃ op bound, b.HasBound op bound) → c.diagnostics = []) ∧
      ((¬ ∃ op bound, b.HasBound op bound) →
        doc.entries = [] ∧ c.diagnostics = [⟨.range, key, .emptyRange⟩]) ∧
      ∀ op bound, b.HasBound op bound → bound.Distinct →
        ∃ v, doc.get? op = some v ∧
          v.toJson.Alike (· = ·) bound.rounded ∧
          (v.toJson.Alike (· = ·) bound ↔ ¬ bound.HasLarge) := by
  obtain ⟨hclauses, hdiagnostics⟩ := (Entry.range ⟨key, some b⟩).compiled_eq
  have hclause : (Entry.range ⟨key, some b⟩).clause? = some (key, .ofDocument b.document) := by
    rw [Entry.clause?, hkey]
    rfl
  rw [hclause] at hclauses
  rw [Entry.said_range hkey] at hdiagnostics
  refine ⟨_, b.document, Entry.compile_alone _, hclauses, fun op => Bounds.contains_document_iff,
    fun hsome => ?_, fun hnone => ?_, fun op bound hbound hdistinct => ?_⟩
  · have hempty : ¬ b.document.isEmpty = true := fun h => Bounds.isEmpty_document_iff.1 h hsome
    rw [hdiagnostics, if_neg hempty]
  · have hempty : b.document.isEmpty = true := Bounds.isEmpty_document_iff.2 hnone
    rw [hdiagnostics, if_pos hempty]
    exact ⟨List.isEmpty_iff.1 hempty, rfl⟩
  · exact ⟨.ofJson bound, Bounds.get?_document_eq_some_iff.2 ⟨bound, hbound, rfl⟩,
      QueryValue.toJson_ofJson_alike hdistinct, QueryValue.toJson_ofJson_alike_iff hdistinct⟩

end Library

/-- An object whose members are not in order, with a null inside. -/
def nestedText : String := "\x7b\"to\": [null, 2], \"from\": \x7b\x7d\x7d"

def nestedBound : Json := .object [("to", .array [.null, .number (.int 2)]), ("from", .object [])]

def largeBound : Json := .number (.large 18446744073709551615 (by decide))

theorem bounds_pass_through_readBounds :
    ∃ (c : Compiled) (doc : QueryDocument) (v w : QueryValue),
      Json.read nestedText = .ok nestedBound ∧
      Json.read "18446744073709551615" = .ok largeBound ∧
      (Request.ofEntries [.range ⟨"age",
        some { gt := some nestedBound, lt := some largeBound, gte := some .null }⟩]).compile false =
          .ok c ∧
      c.clauses.entries = [("age", .ofDocument doc)] ∧ c.diagnostics = [] ∧
      doc.contains "$gte" = false ∧
      doc.get? "$gt" = some v ∧ v.toJson.Alike (· = ·) nestedBound ∧
      doc.get? "$lt" = some w ∧ ¬ w.toJson.Alike (· = ·) largeBound := by
  have hkey : Text.isBlank "age" = false := rfl
  have hnested : Json.read nestedText = .ok nestedBound := by decide +kernel
  have hlarge : Json.read "18446744073709551615" = .ok largeBound := by decide +kernel
  let b : Bounds := { gt := some nestedBound, lt := some largeBound, gte := some .null }
  have hgt : b.HasBound "$gt" nestedBound := ⟨.head _, Json.noConfusion⟩
  have hlt : b.HasBound "$lt" largeBound := ⟨.tail _ (.head _), Json.noConfusion⟩
  obtain ⟨c, doc, hc, hclauses, hkeys, hclean, -, hbounds⟩ := bounds_pass_through hkey b
  obtain ⟨v, hv, -, hvsame⟩ := hbounds "$gt" nestedBound hgt (Json.distinct_of_read hnested)
  obtain ⟨w, hw, -, hwsame⟩ := hbounds "$lt" largeBound hlt (Json.distinct_of_read hlarge)
  have hgte : doc.contains "$gte" = false := by
    rw [Bool.eq_false_iff, ne_eq, hkeys]
    rintro ⟨bound, hmem, hnull⟩
    have heq : bound = .null := by simpa [b] using hmem
    exact hnull heq
  have hsmall : ¬ nestedBound.HasLarge := by
    intro h
    cases h with
    | member hv h =>
        rcases List.mem_pair.1 hv with heq | heq
        · cases heq
          cases h with
          | item hv h =>
              rcases List.mem_pair.1 hv with rfl | rfl
              · cases h
              · cases h
        · cases heq
          cases h with
          | member hv _ => cases hv
  refine ⟨c, doc, v, w, hnested, hlarge, hc, hclauses, hclean ⟨_, _, hgt⟩, hgte, hv, hvsame.2 hsmall,
    hw, fun halike => hwsame.1 halike (.number _ _)⟩

end FilterQuery
