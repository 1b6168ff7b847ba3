import FilterQuery.Proofs.Records

/-!
# Names of members

Objects are lists of members, which could have a name twice. No text is read to such an object: a
repeated name takes its new value in its old place (`setMember`), at whatever depth. So JSON that comes
from a text is `Distinct`, and what needs this of JSON can ask for it.
-/

namespace FilterQuery

open Decoder (exists_of_bind_eq_ok)

namespace Json

/-- No object in it has a name twice. -/
inductive Distinct : Json → Prop where
  | null : Distinct .null
  | bool (b : Bool) : Distinct (.bool b)
  | number (n : Number) : Distinct (.number n)
  | string (s : String) : Distinct (.string s)
  | array {items : List Json} (hitems : ∀ v ∈ items, Distinct v) : Distinct (.array items)
  | object {members : List (String × Json)} (hnames : (members.map Prod.fst).Nodup)
      (hmembers : ∀ e ∈ members, Distinct e.2) : Distinct (.object members)

/-- Members without repetition, whose values have none inside. -/
structure DistinctMembers (members : List (String × Json)) : Prop where
  names : (members.map Prod.fst).Nodup
  values : ∀ e ∈ members, e.2.Distinct

theorem DistinctMembers.nil : DistinctMembers [] := ⟨.nil, fun _ he => absurd he List.not_mem_nil⟩

theorem map_fst_setMember (name : String) (value : Json) (members : List (String × Json)) :
    (setMember name value members).map Prod.fst =
      if name ∈ members.map Prod.fst then members.map Prod.fst
      else members.map Prod.fst ++ [name] := by
  induction members with
  | nil => rfl
  | cons e rest ih =>
      obtain ⟨k, v⟩ := e
      rw [setMember]
      by_cases hk : name = k
      · simp [hk]
      · rw [if_neg hk, List.map_cons, List.map_cons, ih]
        by_cases hrest : name ∈ rest.map Prod.fst
        · rw [if_pos hrest, if_pos (List.mem_cons_of_mem _ hrest)]
        · have hnone : name ∉ k :: rest.map Prod.fst := List.not_mem_cons_of_ne_of_not_mem hk hrest
          rw [if_neg hrest, if_neg hnone, List.cons_append]

theorem mem_setMember {name : String} {value : Json} {members : List (String × Json)}
    {e : String × Json} (h : e ∈ setMember name value members) : e.2 = value ∨ e ∈ members := by
  induction members with
  | nil =>
      rw [List.mem_singleton.1 h]
      exact .inl rfl
  | cons head rest ih =>
      obtain ⟨k, v⟩ := head
      rw [setMember] at h
      split at h
      · rcases List.mem_cons.1 h with rfl | h
        · exact .inl rfl
        · exact .inr (List.mem_cons_of_mem _ h)
      · rcases List.mem_cons.1 h with rfl | h
        · exact .inr List.mem_cons_self
        · exact (ih h).imp_right (List.mem_cons_of_mem _)

theorem DistinctMembers.setMember {members : List (String × Json)} (h : DistinctMembers members)
    (name : String) {value : Json} (hvalue : value.Distinct) :
    DistinctMembers (setMember name value members) := by
  constructor
  · rw [map_fst_setMember]
    split
    · exact h.names
    · next hnew =>
      rw [List.nodup_append]
      refine ⟨h.names, by simp, fun a ha b hb => ?_⟩
      rw [List.mem_singleton.1 hb]
      rintro rfl
      exact hnew ha
  · intro e he
    rcases mem_setMember he with heq | he
    · rw [heq]
      exact hvalue
    · exact h.values e he

theorem eq_of_readWord {value v : Json} {letters : List Char} {cur cur' : Cursor}
    (h : readWord value letters cur = .ok (v, cur')) : v = value := by
  induction letters generalizing cur with
  | nil =>
      cases h
      rfl
  | cons c rest ih =>
      rw [readWord] at h
      split at h
      · cases h
      · split at h
        · exact ih h
        · cases h

section Steps

variable {fuel depth : Nat} {first : Bool} {cur cur' : Cursor}

/-- A container is read by its own loop, all other values at once. -/
theorem cases_of_readValue {v : Json} (h : readValue (fuel + 1) depth cur = .ok (v, cur')) :
    v = .null ∨ (∃ b, v = .bool b) ∨ (∃ n, v = .number n) ∨ (∃ s, v = .string s) ∨
      (∃ items start, v = .array items ∧
        readItems fuel (depth + 1) true start = .ok (items, cur')) ∨
      ∃ members start, v = .object members ∧
        readMembers fuel (depth + 1) true [] start = .ok (members, cur') := by
  rw [readValue] at h
  simp only at h
  split at h
  · cases h
  · exact .inl (eq_of_readWord h)
  · exact .inr (.inl ⟨true, eq_of_readWord h⟩)
  · exact .inr (.inl ⟨false, eq_of_readWord h⟩)
  · obtain ⟨⟨n, later⟩, -, h⟩ := exists_of_bind_eq_ok h
    cases h
    exact .inr (.inr (.inl ⟨n, rfl⟩))
  · obtain ⟨⟨s, later⟩, -, h⟩ := exists_of_bind_eq_ok h
    cases h
    exact .inr (.inr (.inr (.inl ⟨s, rfl⟩)))
  · split at h
    · cases h
    · obtain ⟨⟨items, later⟩, hitems, h⟩ := exists_of_bind_eq_ok h
      cases h
      exact .inr (.inr (.inr (.inr (.inl ⟨items, _, rfl, hitems⟩))))
  · split at h
    · cases h
    · obtain ⟨⟨members, later⟩, hmembers, h⟩ := exists_of_bind_eq_ok h
      cases h
      exact .inr (.inr (.inr (.inr (.inr ⟨members, _, rfl, hmembers⟩))))
  · split at h
    · obtain ⟨⟨n, later⟩, -, h⟩ := exists_of_bind_eq_ok h
      cases h
      exact .inr (.inr (.inl ⟨n, rfl⟩))
    · cases h

theorem cases_of_readItems {items : List Json}
    (h : readItems (fuel + 1) depth first cur = .ok (items, cur')) :
    items = [] ∨ ∃ item rest start next, items = item :: rest ∧
      readValue fuel depth start = .ok (item, next) ∧
      readItems fuel depth false next = .ok (rest, cur') := by
  have hmore : ∀ start, ((readValue fuel depth start).bind fun x =>
      (readItems fuel depth false x.2).bind fun y => .ok (x.1 :: y.1, y.2)) = .ok (items, cur') →
      ∃ item rest start next, items = item :: rest ∧
        readValue fuel depth start = .ok (item, next) ∧
        readItems fuel depth false next = .ok (rest, cur') := by
    intro start h
    obtain ⟨⟨item, next⟩, hitem, h⟩ := exists_of_bind_eq_ok h
    obtain ⟨⟨rest, later⟩, hrest, h⟩ := exists_of_bind_eq_ok h
    cases h
    exact ⟨item, rest, start, next, rfl, hitem, hrest⟩
  unfold readItems at h
  simp only at h
  split at h
  · cases h
  · cases h
    exact .inl rfl
  · split at h
    · cases h
    · cases h
    · exact .inr (hmore _ h)
  · exact .inr (hmore _ h)
  · cases h

theorem cases_of_readMembers {done members : List (String × Json)}
    (h : readMembers (fuel + 1) depth first done cur = .ok (members, cur')) :
    members = done ∨ ∃ name value start next,
      readValue fuel depth start = .ok (value, next) ∧
      readMembers fuel depth false (setMember name value done) next = .ok (members, cur') := by
  have hmember : ∀ {name : String} {start : Cursor},
      ((readValue fuel depth start).bind fun y =>
        readMembers fuel depth false (setMember name y.1 done) y.2) = .ok (members, cur') →
      ∃ name value start next, readValue fuel depth start = .ok (value, next) ∧
        readMembers fuel depth false (setMember name value done) next = .ok (members, cur') := by
    intro name start h
    obtain ⟨⟨value, next⟩, hvalue, h⟩ := exists_of_bind_eq_ok h
    exact ⟨name, value, start, next, hvalue, h⟩
  unfold readMembers at h
  simp only at h
  split at h
  · cases h
  · cases h
    exact .inl rfl
  -- a member after a comma
  · split at h
    · cases h
    · obtain ⟨⟨name, later⟩, -, h⟩ := exists_of_bind_eq_ok h
      simp only at h
      split at h
      · exact .inr (hmember h)
      · cases h
    · cases h
    · cases h
  -- the first member
  · obtain ⟨⟨name, later⟩, -, h⟩ := exists_of_bind_eq_ok h
    simp only at h
    split at h
    · exact .inr (hmember h)
    · cases h
  · cases h
  · cases h

end Steps

/-- The fuel bounds the nesting, and each step hands values without repetition to the one around it. -/
theorem distinct_of_readers (fuel : Nat) :
    (∀ {depth cur v cur'}, readValue fuel depth cur = .ok (v, cur') → v.Distinct) ∧
      (∀ {depth first cur items cur'}, readItems fuel depth first cur = .ok (items, cur') →
        ∀ v ∈ items, v.Distinct) ∧
      ∀ {depth first done cur members cur'}, DistinctMembers done →
        readMembers fuel depth first done cur = .ok (members, cur') → DistinctMembers members := by
  induction fuel with
  | zero =>
      refine ⟨fun h => ?_, fun h => ?_, fun _ h => ?_⟩
      · cases h
      · cases h
      · cases h
  | succ fuel ih =>
      obtain ⟨hvalue, hitems, hmembers⟩ := ih
      refine ⟨fun h => ?_, fun h => ?_, fun hdone h => ?_⟩
      · rcases cases_of_readValue h with rfl | ⟨b, rfl⟩ | ⟨n, rfl⟩ | ⟨s, rfl⟩ |
          ⟨items, start, rfl, hread⟩ | ⟨members, start, rfl, hread⟩
        · exact .null
        · exact .bool b
        · exact .number n
        · exact .string s
        · exact .array (hitems hread)
        · have hdistinct := hmembers .nil hread
          exact .object hdistinct.names hdistinct.values
      · rcases cases_of_readItems h with rfl | ⟨item, rest, start, next, rfl, hitem, hrest⟩
        · exact fun v hv => absurd hv List.not_mem_nil
        · exact List.forall_mem_cons.2 ⟨hvalue hitem, hitems hrest⟩
      · rcases cases_of_readMembers h with rfl | ⟨name, value, start, next, hread, hrest⟩
        · exact hdone
        · exact hmembers (hdone.setMember name (hvalue hread)) hrest

/-- JSON that is read from a text has no name twice in any of its objects. -/
theorem distinct_of_read {text : String} {v : Json} (h : read text = .ok v) : v.Distinct := by
  unfold read at h
  simp only at h
  cases hread : readValue (3 * text.toList.length + 3) 0 ⟨text.toList, 0⟩ with
  | error e =>
      rw [hread] at h
      cases h
  | ok result =>
      obtain ⟨w, cur⟩ := result
      rw [hread] at h
      have hvalue : w = v := by
        change Except.mapError _ (if _ then .ok w else _) = .ok v at h
        split at h
        · cases h
          rfl
        · cases h
      exact hvalue ▸ (distinct_of_readers _).1 hread

end Json

end FilterQuery
