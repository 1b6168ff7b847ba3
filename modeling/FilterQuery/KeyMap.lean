/-!
# Maps in key order

A finite map from strings, held as its entries in strictly ascending order of their keys. The order
is that of the characters' code points, which is also the order of the keys' UTF-8 bytes. Since no
key stands twice and the order is fixed, two maps are equal as soon as they answer every look-up
alike.
-/

namespace FilterQuery

variable {α : Type}

/-- The entries with `value` under `key`: in its place in the order, over whatever stood there. -/
def insertEntry (key : String) (value : α) : List (String × α) → List (String × α)
  | [] => [(key, value)]
  | (k, v) :: rest =>
    if key < k then (key, value) :: (k, v) :: rest
    else if key = k then (key, value) :: rest
    else (k, v) :: insertEntry key value rest

abbrev Ascending (entries : List (String × α)) : Prop :=
  entries.Pairwise fun a b => a.1 < b.1

theorem mem_insertEntry {key : String} {value : α} {entries : List (String × α)}
    {e : String × α} (h : e ∈ insertEntry key value entries) :
    e = (key, value) ∨ e ∈ entries := by
  induction entries with
  | nil => simpa [insertEntry] using h
  | cons head rest ih =>
    obtain ⟨k, v⟩ := head
    simp only [insertEntry] at h
    split at h
    · simpa using h
    · split at h
      · rcases List.mem_cons.1 h with rfl | h
        · exact .inl rfl
        · exact .inr (List.mem_cons_of_mem _ h)
      · rcases List.mem_cons.1 h with rfl | h
        · exact .inr List.mem_cons_self
        · exact (ih h).imp_right (List.mem_cons_of_mem _)

theorem lt_of_not_lt_of_ne {a b : String} (h : ¬ a < b) (hne : a ≠ b) : b < a := by
  rcases Decidable.em (b < a) with hlt | hlt
  · exact hlt
  · exact absurd (String.le_antisymm (String.not_lt.1 hlt) (String.not_lt.1 h)) hne

theorem insertEntry_ascending (key : String) (value : α) {entries : List (String × α)}
    (h : Ascending entries) : Ascending (insertEntry key value entries) := by
  induction entries with
  | nil => simp [insertEntry]
  | cons head rest ih =>
    obtain ⟨k, v⟩ := head
    obtain ⟨hhead, hrest⟩ := List.pairwise_cons.1 h
    simp only [insertEntry]
    split
    · next hlt =>
      refine List.pairwise_cons.2 ⟨fun e he => ?_, h⟩
      rcases List.mem_cons.1 he with rfl | he
      · exact hlt
      · exact String.lt_trans hlt (hhead e he)
    · next hlt =>
      split
      · next heq =>
        subst heq
        exact List.pairwise_cons.2 ⟨hhead, hrest⟩
      · next hne =>
        refine List.pairwise_cons.2 ⟨fun e he => ?_, ih hrest⟩
        rcases mem_insertEntry he with rfl | he
        · exact lt_of_not_lt_of_ne hlt hne
        · exact hhead e he

theorem lookup_cons (key : String) (value : α) (rest : List (String × α)) (k : String) :
    ((key, value) :: rest).lookup k = if k = key then some value else rest.lookup k := by
  by_cases h : k = key
  · simp [h]
  · rw [List.lookup_cons, beq_false_of_ne h]; simp [h]

/-- After an insertion the key holds the new value and every other key what it held before. -/
theorem lookup_insertEntry (key : String) (value : α) (entries : List (String × α)) (k : String) :
    (insertEntry key value entries).lookup k
      = if k = key then some value else entries.lookup k := by
  induction entries with
  | nil => simp [insertEntry, lookup_cons]
  | cons head rest ih =>
    obtain ⟨j, v⟩ := head
    simp only [insertEntry]
    split
    · simp [lookup_cons]
    · split
      · next heq => subst heq; by_cases h : k = key <;> simp [lookup_cons, h]
      · next hne =>
        by_cases hj : k = j
        · subst hj; simp [Ne.symm hne]
        · simp [lookup_cons, hj, ih]

/-- Where no key stands twice, a key is found with its only value. -/
theorem lookup_eq_some_iff_of_nodup {key : String} {value : α} {entries : List (String × α)}
    (h : (entries.map Prod.fst).Nodup) : entries.lookup key = some value ↔ (key, value) ∈ entries := by
  induction entries with
  | nil => simp
  | cons head rest ih =>
    obtain ⟨k, v⟩ := head
    obtain ⟨hhead, hrest⟩ := List.nodup_cons.1 h
    rw [lookup_cons, List.mem_cons, Prod.mk.injEq]
    by_cases hk : key = k
    · subst hk
      have hnot : (key, value) ∉ rest := fun hmem => hhead (List.mem_map.2 ⟨_, hmem, rfl⟩)
      simp [hnot, eq_comm]
    · simp [hk, ih hrest]

theorem nodup_keys_of_ascending {entries : List (String × α)} (h : Ascending entries) :
    (entries.map Prod.fst).Nodup :=
  List.pairwise_map.2 (h.imp fun hlt => String.ne_of_lt hlt)

/-- In ascending entries a key is found with its only value. -/
theorem lookup_eq_some_iff {key : String} {value : α} {entries : List (String × α)}
    (h : Ascending entries) : entries.lookup key = some value ↔ (key, value) ∈ entries :=
  lookup_eq_some_iff_of_nodup (nodup_keys_of_ascending h)

/-- Ascending entries are fixed by their members. -/
theorem eq_of_mem_iff {left right : List (String × α)} (hleft : Ascending left)
    (hright : Ascending right) (h : ∀ e, e ∈ left ↔ e ∈ right) : left = right := by
  induction left generalizing right with
  | nil =>
    cases right with
    | nil => rfl
    | cons b _ => exact absurd ((h b).2 List.mem_cons_self) List.not_mem_nil
  | cons a left ih =>
    cases right with
    | nil => exact absurd ((h a).1 List.mem_cons_self) List.not_mem_nil
    | cons b right =>
      obtain ⟨ha, hleftRest⟩ := List.pairwise_cons.1 hleft
      obtain ⟨hb, hrightRest⟩ := List.pairwise_cons.1 hright
      -- each head is the least key of its list, so neither stands behind the other
      have hab : a = b := by
        rcases List.mem_cons.1 ((h a).1 List.mem_cons_self) with heq | hin
        · exact heq
        · rcases List.mem_cons.1 ((h b).2 List.mem_cons_self) with heq | hin'
          · exact heq.symm
          · exact absurd (String.lt_trans (hb a hin) (ha b hin')) (String.lt_irrefl b.1)
      subst hab
      congr 1
      refine ih hleftRest hrightRest fun e => ⟨fun he => ?_, fun he => ?_⟩
      · rcases List.mem_cons.1 ((h e).1 (List.mem_cons_of_mem _ he)) with rfl | hin
        · exact absurd (ha e he) (String.lt_irrefl e.1)
        · exact hin
      · rcases List.mem_cons.1 ((h e).2 (List.mem_cons_of_mem _ he)) with rfl | hin
        · exact absurd (hb e he) (String.lt_irrefl e.1)
        · exact hin

/-- A key above all others goes to the end. -/
theorem insertEntry_eq_append {key : String} (value : α) {entries : List (String × α)}
    (h : ∀ e ∈ entries, e.1 < key) : insertEntry key value entries = entries ++ [(key, value)] := by
  induction entries with
  | nil => rfl
  | cons head rest ih =>
    obtain ⟨k, v⟩ := head
    have hk : k < key := h (k, v) List.mem_cons_self
    have hrest := ih fun e he => h e (List.mem_cons_of_mem _ he)
    rw [insertEntry, if_neg (String.lt_asymm hk), if_neg (String.ne_of_lt hk).symm, hrest,
      List.cons_append]

theorem lookup_eq_none_of_lt {key : String} {entries : List (String × α)}
    (h : ∀ e ∈ entries, key < e.1) : entries.lookup key = none := by
  rw [List.lookup_eq_none_iff]
  intro e he
  have hne : key ≠ e.1 := String.ne_of_lt (h e he)
  exact bne_iff_ne.2 hne

theorem length_insertEntry (key : String) (value : α) {entries : List (String × α)}
    (h : Ascending entries) : (insertEntry key value entries).length =
      if (entries.lookup key).isSome then entries.length else entries.length + 1 := by
  induction entries with
  | nil => rfl
  | cons head rest ih =>
    obtain ⟨k, v⟩ := head
    obtain ⟨hhead, hrest⟩ := List.pairwise_cons.1 h
    rw [insertEntry, lookup_cons]
    split
    · next hlt =>
      have habove : ∀ e ∈ rest, key < e.1 := fun e he => String.lt_trans hlt (hhead e he)
      simp [String.ne_of_lt hlt, lookup_eq_none_of_lt habove]
    · split
      · simp
      · simp only [List.length_cons, ih hrest]
        split <;> rfl

/-- A finite map from strings. -/
structure KeyMap (α : Type) where
  /-- The keys with their values, in ascending order of the keys. -/
  entries : List (String × α)
  ascending : Ascending entries
deriving DecidableEq

namespace KeyMap

def empty : KeyMap α := ⟨[], .nil⟩

instance : Inhabited (KeyMap α) := ⟨empty⟩

def get? (map : KeyMap α) (key : String) : Option α := map.entries.lookup key

/-- The map with `value` under `key`; the last insertion of a key wins. -/
def insert (map : KeyMap α) (key : String) (value : α) : KeyMap α :=
  ⟨insertEntry key value map.entries, insertEntry_ascending key value map.ascending⟩

def contains (map : KeyMap α) (key : String) : Bool := (map.get? key).isSome

def size (map : KeyMap α) : Nat := map.entries.length

def isEmpty (map : KeyMap α) : Bool := map.entries.isEmpty

def keys (map : KeyMap α) : List String := map.entries.map (·.1)

/-- The map of a list of entries; of two entries with one key the later counts. -/
def ofList (entries : List (String × α)) : KeyMap α :=
  entries.foldl (fun map e => map.insert e.1 e.2) empty

@[simp] theorem get?_empty (k : String) : (empty : KeyMap α).get? k = none := rfl

theorem get?_insert (map : KeyMap α) (key : String) (value : α) (k : String) :
    (map.insert key value).get? k = if k = key then some value else map.get? k :=
  lookup_insertEntry key value map.entries k

@[simp] theorem get?_insert_self (map : KeyMap α) (key : String) (value : α) :
    (map.insert key value).get? key = some value := by simp [get?_insert]

theorem get?_eq_some_iff {map : KeyMap α} {key : String} {value : α} :
    map.get? key = some value ↔ (key, value) ∈ map.entries :=
  lookup_eq_some_iff map.ascending

theorem contains_insert (map : KeyMap α) (key : String) (value : α) (k : String) :
    (map.insert key value).contains k = (k == key || map.contains k) := by
  rw [contains, get?_insert]
  by_cases hk : k = key
  · simp [hk]
  · simp [hk, contains]

/-- An insertion adds a key unless the map has it. -/
theorem size_insert (map : KeyMap α) (key : String) (value : α) :
    (map.insert key value).size = if map.contains key then map.size else map.size + 1 :=
  length_insertEntry key value map.ascending

theorem eq_of_entries_eq {left right : KeyMap α} (h : left.entries = right.entries) :
    left = right := by
  cases left
  cases right
  exact (KeyMap.mk.injEq ..).mpr h

/-- Maps that answer every look-up alike are equal. -/
theorem eq_of_get?_eq {left right : KeyMap α} (h : ∀ k, left.get? k = right.get? k) :
    left = right := by
  refine eq_of_entries_eq (eq_of_mem_iff left.ascending right.ascending fun e => ?_)
  rw [← get?_eq_some_iff, h, get?_eq_some_iff]

theorem entries_foldl_insert (entries : List (String × α)) (map : KeyMap α)
    (h : Ascending (map.entries ++ entries)) :
    (entries.foldl (fun map e => map.insert e.1 e.2) map).entries = map.entries ++ entries := by
  induction entries generalizing map with
  | nil => simp
  | cons e rest ih =>
    have hlast : ∀ e' ∈ map.entries, e'.1 < e.1 := fun e' he' =>
      (List.pairwise_append.1 h).2.2 e' he' e List.mem_cons_self
    have hinsert : (map.insert e.1 e.2).entries = map.entries ++ [e] :=
      insertEntry_eq_append e.2 hlast
    rw [List.foldl_cons, ih, hinsert, List.append_assoc, List.singleton_append]
    rw [hinsert, List.append_assoc, List.singleton_append]
    exact h

/-- Ascending entries are the entries of their map. -/
theorem entries_ofList {entries : List (String × α)} (h : Ascending entries) :
    (ofList entries).entries = entries :=
  entries_foldl_insert entries empty h

theorem mem_foldl_insert {c : String × α} (entries : List (String × α)) (map : KeyMap α)
    (h : c ∈ (entries.foldl (fun map e => map.insert e.1 e.2) map).entries) :
    c ∈ map.entries ∨ c ∈ entries := by
  induction entries generalizing map with
  | nil => exact .inl h
  | cons e rest ih =>
    rcases ih (map.insert e.1 e.2) h with hmap | hrest
    · rcases mem_insertEntry hmap with rfl | hmap
      · exact .inr List.mem_cons_self
      · exact .inl hmap
    · exact .inr (List.mem_cons_of_mem e hrest)

/-- Of several insertions of one key the last counts. -/
theorem get?_foldl_insert (entries : List (String × α)) (map : KeyMap α) (k : String) :
    (entries.foldl (fun map e => map.insert e.1 e.2) map).get? k =
      (entries.reverse.lookup k).or (map.get? k) := by
  induction entries generalizing map with
  | nil => rfl
  | cons e rest ih =>
    rw [List.foldl_cons, ih, List.reverse_cons, List.lookup_append, get?_insert, lookup_cons,
      Option.or_assoc]
    split <;> simp

theorem get?_ofList (entries : List (String × α)) (k : String) :
    (ofList entries).get? k = entries.reverse.lookup k := by
  rw [ofList, get?_foldl_insert, get?_empty, Option.or_none]

theorem contains_ofList_iff {entries : List (String × α)} {k : String} :
    (ofList entries).contains k = true ↔ ∃ v, (k, v) ∈ entries := by
  rw [contains, get?_ofList, List.lookup_isSome_iff]
  constructor
  · rintro ⟨⟨j, v⟩, he, hk⟩
    rw [beq_iff_eq] at hk
    exact ⟨v, hk ▸ List.mem_reverse.1 he⟩
  · rintro ⟨v, he⟩
    exact ⟨(k, v), List.mem_reverse.2 he, beq_self_eq_true k⟩

theorem isEmpty_ofList_iff {entries : List (String × α)} :
    (ofList entries).isEmpty = true ↔ entries = [] := by
  constructor
  · intro hempty
    rw [List.eq_nil_iff_forall_not_mem]
    intro e he
    have hcontains := contains_ofList_iff.2 ⟨e.2, he⟩
    rw [isEmpty, List.isEmpty_iff] at hempty
    rw [contains, get?, hempty] at hcontains
    cases hcontains
  · rintro rfl
    rfl

theorem mem_of_mem_ofList {entries : List (String × α)} {c : String × α}
    (h : c ∈ (ofList entries).entries) : c ∈ entries :=
  (mem_foldl_insert entries empty h).resolve_left List.not_mem_nil

end KeyMap

end FilterQuery
