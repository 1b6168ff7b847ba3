import FilterQuery.Listing

/-!
# The fields to sort by

A list to sort by may name a field several times, and some of its entries may name none. Each field
counts where it is named first. So the fields come in the order of their first entries, and a longer
list only adds fields behind those there are.

`sortKeys` drops the later entries of a field behind the first one. The same keys come from one pass that
looks back at what it has taken (`foldl_takeEntry`). Such a pass never moves what it has taken, and that
is why the beginning of a list gives the beginning of its keys.
-/

namespace FilterQuery

def SortKey.fields (keys : List SortKey) : List String := keys.map (·.field)

/-- Takes one more entry: its field goes behind the others, unless it is among them. -/
def SortKey.takeEntry (keys : List SortKey) (e : SortEntry) : List SortKey :=
  if Text.isBlank e.key ∨ e.key ∈ fields keys then keys else keys ++ [⟨e.key, .ofText e.value⟩]

/-- The direction as a text. -/
def SortOrder.text : SortOrder → String
  | .ascending => "1"
  | .descending => "-1"

/-- The entry that asks for a key. -/
def SortKey.entry (k : SortKey) : SortEntry := ⟨k.field, k.order.text⟩

open SortKey (fields takeEntry)

theorem sortKeys_of_isBlank {e : SortEntry} (h : Text.isBlank e.key = true)
    (rest : List SortEntry) : sortKeys (e :: rest) = sortKeys rest := by
  rw [sortKeys, if_pos h]

theorem sortKeys_of_not_isBlank {e : SortEntry} (h : Text.isBlank e.key = false)
    (rest : List SortEntry) : sortKeys (e :: rest) =
      ⟨e.key, .ofText e.value⟩ :: (sortKeys rest).filter (·.field != e.key) := by
  rw [sortKeys, h, if_neg Bool.false_ne_true]

/-- A pass over the entries adds the keys whose fields are not there yet. -/
theorem foldl_takeEntry (keys : List SortKey) (entries : List SortEntry) :
    entries.foldl takeEntry keys =
      keys ++ (sortKeys entries).filter fun k => k.field ∉ fields keys := by
  induction entries generalizing keys with
  | nil => simp [sortKeys]
  | cons e rest ih =>
      rw [List.foldl_cons, ih, takeEntry]
      cases hblank : Text.isBlank e.key with
      | true => rw [if_pos (.inl rfl), sortKeys_of_isBlank hblank]
      | false =>
          rw [sortKeys_of_not_isBlank hblank, List.filter_cons, List.filter_filter]
          by_cases hseen : e.key ∈ fields keys
          · -- a key that is not there has another field than this one, which is
            have hother : ∀ k ∈ sortKeys rest,
                decide (k.field ∉ fields keys) =
                  (decide (k.field ∉ fields keys) && (k.field != e.key)) := by
              intro k _
              by_cases hk : k.field = e.key
              · simp [hk, hseen]
              · simp [hk]
            rw [if_pos (.inr hseen), if_neg (by simp [hseen]), List.filter_congr hother]
          · have hother : ∀ k ∈ sortKeys rest,
                decide (k.field ∉ fields (keys ++ [⟨e.key, .ofText e.value⟩])) =
                  (decide (k.field ∉ fields keys) && (k.field != e.key)) := by
              intro k _
              by_cases hk : k.field = e.key
              · simp [fields, hk]
              · simp [fields, hk]
            rw [if_neg (by simp [hseen]), if_pos (by simp [hseen]), List.filter_congr hother,
              List.append_assoc, List.singleton_append]

theorem sortKeys_append (entries more : List SortEntry) :
    sortKeys (entries ++ more) = sortKeys entries ++
      (sortKeys more).filter fun k => k.field ∉ fields (sortKeys entries) := by
  have hpass : ∀ entries, sortKeys entries = entries.foldl takeEntry [] := fun entries => by
    rw [foldl_takeEntry, List.nil_append, List.filter_eq_self.2]
    exact fun k _ => rfl
  rw [← foldl_takeEntry, hpass (entries ++ more), List.foldl_append, ← hpass entries]

theorem mem_sortKeys_iff {field : String} {order : SortOrder} {entries : List SortEntry} :
    ⟨field, order⟩ ∈ sortKeys entries ↔ Text.isBlank field = false ∧
      (entries.find? (·.key == field)).map (fun e => .ofText e.value) = some order := by
  induction entries with
  | nil => simp [sortKeys]
  | cons e rest ih =>
      cases hblank : Text.isBlank e.key with
      | true =>
          rw [sortKeys_of_isBlank hblank, ih, List.find?_cons]
          by_cases hfield : e.key = field
          · simp [← hfield, hblank]
          · rw [beq_false_of_ne hfield]
      | false =>
          rw [sortKeys_of_not_isBlank hblank, List.mem_cons, List.mem_filter, ih, List.find?_cons]
          by_cases hfield : e.key = field
          · simp [← hfield, hblank, eq_comm]
          · rw [beq_false_of_ne hfield]
            simp [Ne.symm hfield]

theorem not_isBlank_of_mem_sortKeys {k : SortKey} {entries : List SortEntry}
    (h : k ∈ sortKeys entries) : Text.isBlank k.field = false :=
  (mem_sortKeys_iff.1 h).1

theorem nodup_fields_sortKeys (entries : List SortEntry) : (fields (sortKeys entries)).Nodup := by
  induction entries with
  | nil => exact .nil
  | cons e rest ih =>
      cases hblank : Text.isBlank e.key with
      | true => rwa [sortKeys_of_isBlank hblank]
      | false =>
          rw [sortKeys_of_not_isBlank hblank]
          refine List.nodup_cons.2 ⟨?_, (List.filter_sublist.map _).nodup ih⟩
          simp

/-- The keys stand in the order of the first entries of their fields. -/
theorem pairwise_findIdx_sortKeys (entries : List SortEntry) :
    (sortKeys entries).Pairwise fun k k' =>
      entries.findIdx (·.key == k.field) < entries.findIdx (·.key == k'.field) := by
  induction entries with
  | nil => exact .nil
  | cons e rest ih =>
      have hlater : ∀ keys : List SortKey, keys.Sublist (sortKeys rest) →
          (∀ k ∈ keys, e.key ≠ k.field) → keys.Pairwise fun k k' =>
            (e :: rest).findIdx (·.key == k.field) < (e :: rest).findIdx (·.key == k'.field) := by
        intro keys hkeys hne
        refine (ih.sublist hkeys).imp_of_mem fun {k k'} hk hk' hlt => ?_
        rw [List.findIdx_cons, List.findIdx_cons, beq_false_of_ne (hne k hk),
          beq_false_of_ne (hne k' hk')]
        exact Nat.succ_lt_succ hlt
      cases hblank : Text.isBlank e.key with
      | true =>
          rw [sortKeys_of_isBlank hblank]
          refine hlater _ (.refl _) fun k hk heq => ?_
          rw [heq, not_isBlank_of_mem_sortKeys hk] at hblank
          cases hblank
      | false =>
          have hne : ∀ k ∈ (sortKeys rest).filter (·.field != e.key), e.key ≠ k.field := fun k hk =>
            (bne_iff_ne.1 (List.mem_filter.1 hk).2).symm
          rw [sortKeys_of_not_isBlank hblank]
          refine List.pairwise_cons.2 ⟨fun k hk => ?_, hlater _ List.filter_sublist hne⟩
          simp [List.findIdx_cons, beq_false_of_ne (hne k hk)]

theorem SortOrder.ofText_text (order : SortOrder) : ofText order.text = order := by
  cases order with
  | ascending => decide +kernel
  | descending => decide +kernel

/-- Keys with fields of their own are what their entries ask for. -/
theorem sortKeys_map_entry {keys : List SortKey} (hfields : (fields keys).Nodup)
    (hblank : ∀ k ∈ keys, Text.isBlank k.field = false) :
    sortKeys (keys.map SortKey.entry) = keys := by
  induction keys with
  | nil => rfl
  | cons k rest ih =>
      obtain ⟨hk, hrest⟩ := List.nodup_cons.1 hfields
      have hother : ∀ k' ∈ rest, k'.field != k.field := fun k' hk' =>
        bne_iff_ne.2 fun heq => hk (List.mem_map.2 ⟨k', hk', heq⟩)
      have horder : SortOrder.ofText k.entry.value = k.order := k.order.ofText_text
      rw [List.map_cons, sortKeys_of_not_isBlank (hblank k List.mem_cons_self),
        ih hrest fun k' hk' => hblank k' (List.mem_cons_of_mem k hk'), horder]
      exact congrArg (k :: ·) (List.filter_eq_self.2 hother)

theorem Json.setMember_of_not_mem {name : String} (value : Json) {members : List (String × Json)}
    (h : name ∉ members.map Prod.fst) : setMember name value members = members ++ [(name, value)] := by
  induction members with
  | nil => rfl
  | cons e rest ih =>
      obtain ⟨hname, hrest⟩ := not_or.1 (mt List.mem_cons.2 h)
      rw [setMember, if_neg hname, ih hrest, List.cons_append]

theorem foldl_setMember {keys : List SortKey} {value : SortKey → Json}
    {members : List (String × Json)} (hfields : (members.map Prod.fst ++ fields keys).Nodup) :
    keys.foldl (fun members k => Json.setMember k.field (value k) members) members =
      members ++ keys.map fun k => (k.field, value k) := by
  induction keys generalizing members with
  | nil => simp
  | cons k rest ih =>
      have hnew : k.field ∉ members.map Prod.fst := fun hmem =>
        (List.nodup_append.1 hfields).2.2 _ hmem _ List.mem_cons_self rfl
      rw [List.foldl_cons, Json.setMember_of_not_mem _ hnew, ih, List.map_cons, List.append_assoc,
        List.singleton_append]
      simpa [fields] using hfields

theorem Listing.sortDocument_eq_map {l : Listing} (h : (fields l.sort).Nodup) :
    l.sortDocument = l.sort.map fun k => (k.field, .number (.int k.order.direction)) := by
  have hnone : (([] : List (String × Json)).map Prod.fst ++ fields l.sort).Nodup := h
  rw [sortDocument, foldl_setMember hnone, List.nil_append]

/-- **Every field counts where it is named first.** No field is sorted by twice, and none is blank. A
field is there with an order if and only if it is not blank and its first entry asks for that order, and
the fields come in the order of their first entries. So more entries only add fields at the end, and the
list that asks for just these fields gives them again. The sort document has the same fields in the same
order, each with its direction. -/
theorem sort_fields_are_first_entries (r : Request) :
    ((Listing.ofRequest r).sort.map (·.field)).Nodup ∧
      (∀ field order, ⟨field, order⟩ ∈ (Listing.ofRequest r).sort ↔
        Text.isBlank field = false ∧
          (r.sort.find? (·.key == field)).map (fun e => .ofText e.value) = some order) ∧
      ((Listing.ofRequest r).sort.Pairwise fun k k' =>
        r.sort.findIdx (·.key == k.field) < r.sort.findIdx (·.key == k'.field)) ∧
      (∀ more, (Listing.ofRequest r).sort <+:
        (Listing.ofRequest { r with sort := r.sort ++ more }).sort) ∧
      (Listing.ofRequest { r with sort := (Listing.ofRequest r).sort.map SortKey.entry }).sort =
        (Listing.ofRequest r).sort ∧
      (Listing.ofRequest r).sortDocument = (Listing.ofRequest r).sort.map fun k =>
        (k.field, .number (.int (if k.order = .descending then -1 else 1))) := by
  have hfields := nodup_fields_sortKeys r.sort
  refine ⟨hfields, fun field order => mem_sortKeys_iff, pairwise_findIdx_sortKeys r.sort,
    fun more => ?_, ?_, ?_⟩
  · exact ⟨_, (sortKeys_append r.sort more).symm⟩
  · exact sortKeys_map_entry hfields fun k hk => not_isBlank_of_mem_sortKeys hk
  · rw [Listing.sortDocument_eq_map hfields]
    refine List.map_congr_left fun k _ => ?_
    cases h : k.order with
    | _ => rfl

/-- What is named again and what names no field is passed over. -/
example : fields (sortKeys [⟨"name", "asc"⟩, ⟨" ", "asc"⟩, ⟨"created", "desc"⟩, ⟨"name", "desc"⟩]) =
    ["name", "created"] := by decide

end FilterQuery
