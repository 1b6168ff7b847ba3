import FilterQuery.Proofs.Merging
import Mathlib.Algebra.BigOperators.Group.List.Basic
import Mathlib.Algebra.GroupWithZero.Nat
import Mathlib.Data.List.Nodup

/-!
# What a coercion without issues keeps

A coercion is to record every part of a value that it leaves out. Where it records nothing, the result
should then have all booleans, numbers and texts of the value. Counting them along the two loops shows
one way in which a part is lost in silence: a pair of a list under a field puts its value over that of
an earlier pair with the same key. These values (`shadowed`) make up the whole difference.
-/

namespace FilterQuery

section LastEntries

variable {α : Type}

/-- The entries that no later one of the same key follows. -/
def lastEntries : List (String × α) → List (String × α)
  | [] => []
  | e :: rest => if rest.any (·.1 == e.1) then lastEntries rest else e :: lastEntries rest

theorem lastEntries_sublist (entries : List (String × α)) : (lastEntries entries).Sublist entries := by
  induction entries with
  | nil => exact .slnil
  | cons e rest ih =>
      rw [lastEntries]
      split
      · exact ih.cons e
      · exact ih.cons_cons e

theorem nodup_keys_lastEntries (entries : List (String × α)) :
    ((lastEntries entries).map Prod.fst).Nodup := by
  induction entries with
  | nil => exact .nil
  | cons e rest ih =>
      rw [lastEntries]
      split
      · exact ih
      · next hlast =>
          rw [List.map_cons, List.nodup_cons]
          refine ⟨fun hmem => hlast ?_, ih⟩
          obtain ⟨later, hlater, hkey⟩ := List.mem_map.1 hmem
          rw [List.any_eq_true]
          exact ⟨later, (lastEntries_sublist rest).subset hlater, beq_iff_eq.2 hkey⟩

theorem lookup_lastEntries (entries : List (String × α)) (k : String) :
    (lastEntries entries).lookup k = entries.reverse.lookup k := by
  induction entries with
  | nil => rfl
  | cons e rest ih =>
      obtain ⟨j, v⟩ := e
      have hlater : ((lastEntries rest).lookup k).isSome = rest.any (·.1 == k) := by
        rw [ih, Bool.eq_iff_iff, List.lookup_isSome_iff, List.any_eq_true]
        simp only [List.mem_reverse, BEq.comm]
      rw [List.reverse_cons, List.lookup_append, ← ih, lookup_cons, List.lookup_nil, lastEntries]
      by_cases hk : k = j
      · subst hk
        rw [← hlater, if_pos rfl]
        cases hrest : (lastEntries rest).lookup k with
        | none => simp
        | some w => simp [hrest]
      · rw [if_neg hk, Option.or_none]
        split
        · rfl
        · rw [lookup_cons, if_neg hk]

/-- A document made of entries has the last one of each key. -/
theorem KeyMap.entries_ofList_perm (entries : List (String × α)) :
    (KeyMap.ofList entries).entries.Perm (lastEntries entries) := by
  have hmap := nodup_keys_of_ascending (KeyMap.ofList entries).ascending
  have hlast := nodup_keys_lastEntries entries
  rw [List.perm_ext_iff_of_nodup (.of_map Prod.fst hmap) (.of_map Prod.fst hlast)]
  rintro ⟨key, value⟩
  rw [← lookup_eq_some_iff_of_nodup hmap, ← lookup_eq_some_iff_of_nodup hlast, lookup_lastEntries,
    ← KeyMap.get?_ofList]
  rfl

end LastEntries

namespace QueryValue

mutual

/-- How many booleans, numbers, texts and patterns stand in a value. -/
def scalars : QueryValue → Nat
  | .null => 0
  | .array items => itemScalars items
  | .document entries => entryScalars entries
  | _ => 1

def itemScalars : List QueryValue → Nat
  | [] => 0
  | item :: rest => scalars item + itemScalars rest

def entryScalars : List (String × QueryValue) → Nat
  | [] => 0
  | (_, v) :: rest => scalars v + entryScalars rest

end

theorem entryScalars_eq_sum (entries : List (String × QueryValue)) :
    entryScalars entries = (entries.map fun e => e.2.scalars).sum := by
  induction entries with
  | nil => rfl
  | cons e rest ih => rw [entryScalars, ih, List.map_cons, List.sum_cons]

theorem scalars_ofList (entries : List (String × QueryValue)) :
    (ofDocument (.ofList entries)).scalars = entryScalars (lastEntries entries) := by
  rw [ofDocument, scalars, entryScalars_eq_sum, entryScalars_eq_sum]
  exact ((KeyMap.entries_ofList_perm entries).map _).sum_eq

theorem scalars_operator (key : String) (value : QueryValue) :
    (operator key value).scalars = value.scalars := rfl

end QueryValue

namespace RequestValue

mutual

/-- How many booleans, numbers and texts stand in a value. -/
def scalars : RequestValue → Nat
  | .null | .unsupported _ => 0
  | .pair _ value => scalars value
  | .array items => itemScalars items
  | _ => 1

def itemScalars : List RequestValue → Nat
  | [] => 0
  | item :: rest => scalars item + itemScalars rest

end

def hasKey (key : String) : RequestValue → Bool
  | .pair k _ => k == key
  | _ => false

mutual

/-- The values of pairs that lose their place in a document to a later pair of the same list. -/
def shadowed (place : Place) : RequestValue → List RequestValue
  | .pair key value => shadowed (.under key) value
  | .array items =>
    match place with
    | .field => shadowedPairs items
    | .operand => shadowedElements items
  | _ => []

def shadowedPairs : List RequestValue → List RequestValue
  | [] => []
  | .pair key value :: rest =>
    (if rest.any (hasKey key) then [value] else shadowed (.under key) value) ++ shadowedPairs rest
  | _ :: rest => shadowedPairs rest

def shadowedElements : List RequestValue → List RequestValue
  | [] => []
  | item :: rest => shadowed .field item ++ shadowedElements rest

end

def totalScalars (values : List RequestValue) : Nat := (values.map scalars).sum

theorem totalScalars_append (first second : List RequestValue) :
    totalScalars (first ++ second) = totalScalars first + totalScalars second := by
  rw [totalScalars, List.map_append, List.sum_append]
  rfl

theorem totalScalars_singleton (v : RequestValue) : totalScalars [v] = v.scalars := by
  simp [totalScalars]

/-- Where nothing is recorded, every item is a pair that adds its key to the document. -/
theorem any_usable?_of_clean {path : String} {index : Nat} {items : List RequestValue}
    (hclean : pairOmissions path index items = []) (key : String) :
    (items.filterMap usable?).any (·.1 == key) = items.any (hasKey key) := by
  induction items generalizing index with
  | nil => rfl
  | cons item rest ih =>
      cases item with
      | pair k value =>
          rw [pairOmissions] at hclean
          cases hvalue : value.meaning (.under k) with
          | none => simp [hvalue] at hclean
          | some v =>
              simp only [hvalue, List.append_eq_nil_iff] at hclean
              rw [List.filterMap_cons, usable?_pair, hvalue]
              simp only [Option.map_some, List.any_cons, ih hclean.2, hasKey]
      | _ => simp [pairOmissions] at hclean

mutual

/-- What comes of a value without issues has all its scalars but those of the shadowed values. -/
theorem scalars_of_clean {place : Place} {path : String} (v : RequestValue) {q : QueryValue}
    (hq : v.meaning place = some q) (hclean : v.omissions place path = []) :
    q.scalars + totalScalars (v.shadowed place) = v.scalars := by
  cases v with
  | pair key value =>
      rw [meaning, Option.map_eq_some_iff] at hq
      obtain ⟨w, hw, rfl⟩ := hq
      rw [omissions] at hclean
      rw [QueryValue.scalars_operator, shadowed, scalars]
      exact scalars_of_clean value hw hclean
  | array items =>
      cases place with
      | field =>
          rw [omissions] at hclean
          have hdoc : mergedWith .empty items = .ofList (items.filterMap usable?) :=
            mergedWith_eq_foldl items .empty
          rw [meaning, hdoc] at hq
          simp only [Option.ite_none_left_eq_some, Option.some.injEq] at hq
          obtain ⟨-, rfl⟩ := hq
          rw [QueryValue.scalars_ofList, shadowed, scalars]
          exact entryScalars_of_clean items hclean
      | operand =>
          rw [omissions] at hclean
          rw [meaning] at hq
          cases hq
          rw [QueryValue.scalars, shadowed, scalars]
          exact itemScalars_of_clean items hclean
  | null => cases hq
  | unsupported raw => cases hq
  | string s =>
      cases hq
      cases place with
      | field => rfl
      | operand => rfl
  | _ =>
      cases hq
      rfl

theorem entryScalars_of_clean {path : String} {index : Nat} (items : List RequestValue)
    (hclean : pairOmissions path index items = []) :
    QueryValue.entryScalars (lastEntries (items.filterMap usable?)) +
      totalScalars (shadowedPairs items) = itemScalars items := by
  cases items with
  | nil => rfl
  | cons item rest =>
      cases item with
      | pair key value =>
          rw [pairOmissions] at hclean
          cases hvalue : value.meaning (.under key) with
          | none => simp [hvalue] at hclean
          | some v =>
              simp only [hvalue, List.append_eq_nil_iff] at hclean
              obtain ⟨hinside, hrest⟩ := hclean
              have hthis := scalars_of_clean value hvalue hinside
              have hothers := entryScalars_of_clean rest hrest
              rw [List.filterMap_cons, usable?_pair, hvalue]
              simp only [Option.map_some]
              rw [lastEntries, any_usable?_of_clean hrest, shadowedPairs, totalScalars_append,
                itemScalars, scalars]
              split
              · rw [totalScalars_singleton]
                omega
              · rw [QueryValue.entryScalars]
                omega
      | _ => simp [pairOmissions] at hclean

theorem itemScalars_of_clean {path : String} {index : Nat} (items : List RequestValue)
    (hclean : elementOmissions path index items = []) :
    QueryValue.itemScalars (meanings items) + totalScalars (shadowedElements items) =
      itemScalars items := by
  cases items with
  | nil => rfl
  | cons item rest =>
      rw [elementOmissions] at hclean
      cases hitem : item.meaning .field with
      | none => simp [hitem] at hclean
      | some v =>
          simp only [hitem, List.append_eq_nil_iff] at hclean
          obtain ⟨hinside, hrest⟩ := hclean
          have hthis := scalars_of_clean item hitem hinside
          have hothers := itemScalars_of_clean rest hrest
          rw [meanings, hitem, shadowedElements, totalScalars_append, itemScalars]
          simp only [QueryValue.itemScalars]
          omega

end

/-- **A coercion without issues keeps all but the shadowed values.** Where a coercion records nothing,
the scalars of its result and those of the shadowed values together are the scalars of the value. So it
loses none if and only if no shadowed value has any. -/
theorem clean_coercion_keeps_scalars {place : Place} {path : String} {v : RequestValue}
    {q : QueryValue} (h : v.coerce place path [] = (some q, [])) :
    q.scalars + totalScalars (v.shadowed place) = v.scalars ∧
      (q.scalars = v.scalars ↔ ∀ w ∈ v.shadowed place, w.scalars = 0) := by
  rw [coerce_eq, List.nil_append, Prod.mk.injEq] at h
  have hbalance := v.scalars_of_clean h.1 h.2
  refine ⟨hbalance, ?_⟩
  have hzero : totalScalars (v.shadowed place) = 0 ↔ ∀ w ∈ v.shadowed place, w.scalars = 0 := by
    rw [totalScalars, List.sum_eq_zero_iff_forall_eq_nat, List.forall_mem_map]
  rw [← hzero]
  omega

/-- Three pairs of which the last takes the place of the first. -/
def twiceNamed : RequestValue :=
  .array [.pair "size" (.int 1), .pair "label" (.string "x"), .pair "size" (.pair "$gt" (.int 2))]

theorem clean_coercion_keeps_scalars_twiceNamed :
    ∃ q, twiceNamed.coerce .field "item" [] = (some q, []) ∧ q.scalars = 2 ∧
      twiceNamed.scalars = 3 ∧ totalScalars (twiceNamed.shadowed .field) = 1 := by
  have hcoerce : twiceNamed.coerce .field "item" [] =
      (some (.document [("label", .regex (.exact "x")), ("size", .operator "$gt" (.int 2))]), []) :=
    rfl
  obtain ⟨hbalance, -⟩ := clean_coercion_keeps_scalars hcoerce
  have hshadowed : totalScalars (twiceNamed.shadowed .field) = 1 := by decide +kernel
  have hscalars : twiceNamed.scalars = 3 := by decide +kernel
  refine ⟨_, hcoerce, ?_, hscalars, hshadowed⟩
  omega

/-- The first of two pairs with one key is left out, and nothing is recorded. -/
theorem coercion_of_repeated_key_loses_scalar :
    ∃ q, (array [.pair "a" (.int 1), .pair "a" (.int 2)]).coerce .field "p" [] = (some q, []) ∧
      q.scalars = 1 ∧ (array [.pair "a" (.int 1), .pair "a" (.int 2)]).scalars = 2 :=
  ⟨.document [("a", .int 2)], rfl, rfl, rfl⟩

end RequestValue

end FilterQuery
