import FilterQuery.Proofs.CanonicalValues
import FilterQuery.Proofs.Entries

/-!
# Coercion under another path

A coercion carries the path of the field it is at, and the issues so far. The path is put together on
the way down and shows in the issues only, so a value means the same wherever it stands, and what is left
out of it under some path is what is left out of it under none, with the path put in front. That is how
a draft takes over the diagnostics of a nested one.

The empty path is joined to a key without a dot, and so is the empty issue path to the path in front of
it. A pair without a key would tell the two joints apart: under no path its value has no path either, and
under any other it has one that ends in a dot. There is no such pair in a value that was read.
-/

namespace FilterQuery

open Draft

/-- The issue of a value that stands under a path, from that of the value by itself. -/
def Issue.under (path : String) (i : Issue) : Issue := ⟨nestedKey path i.path, i.reason⟩

theorem nestedKey_pathUnder {path key : String} (hpath : path ≠ "") (hkey : key ≠ "")
    (inner : String) : nestedKey path (pathUnder inner key) = pathUnder (nestedKey path inner) key := by
  by_cases hoperator : isOperator key = true
  · rw [pathUnder, pathUnder, if_pos hoperator, if_pos hoperator]
  · rw [pathUnder, pathUnder, if_neg hoperator, if_neg hoperator, joinPath, joinPath, nestedKey,
      nestedKey]
    by_cases hinner : inner = ""
    · rw [if_pos hinner, if_neg hkey, if_pos hinner, if_neg hpath]
    · have hbelow : inner ++ "." ++ key ≠ "" := by simp
      have hnested : path ++ "." ++ inner ≠ "" := by simp
      rw [if_neg hinner, if_neg hbelow, if_neg hinner, if_neg hnested]
      simp only [String.append_assoc]

namespace RequestValue

/-- Every pair in the value has a key. -/
def Keyed (v : RequestValue) : Prop := ∀ key value, v.Part (.pair key value) → key ≠ ""

theorem Keyed.of_part {v w : RequestValue} (h : v.Keyed) (hw : v.Part w) : w.Keyed :=
  fun key value hpair => h key value (hw.trans hpair)

theorem keyed_ofJson (j : Json) : (ofJson j).Keyed :=
  ((canonical_iff (ofJson j)).1 (canonical_ofJson j)).2.1

mutual

/-- What is left out under a path is what is left out below it, with the path in front. -/
theorem omissions_nestedKey {path : String} (hpath : path ≠ "") (place : Place) (inner : String)
    (v : RequestValue) (hkeys : v.Keyed) :
    v.omissions place (nestedKey path inner) = (v.omissions place inner).map (.under path) := by
  cases v with
  | pair key value =>
      have hkey : key ≠ "" := hkeys key value .self
      rw [omissions, omissions, ← nestedKey_pathUnder hpath hkey]
      exact omissions_nestedKey hpath (.under key) (pathUnder inner key) value
        (hkeys.of_part (.value .self))
  | array items =>
      have hitems : ∀ v ∈ items, v.Keyed := fun v hv => hkeys.of_part (.item .self hv)
      cases place with
      | field => exact pairOmissions_nestedKey hpath inner 0 items hitems
      | operand => exact elementOmissions_nestedKey hpath inner 0 items hitems
  | _ => simp [omissions]

theorem pairOmissions_nestedKey {path : String} (hpath : path ≠ "") (inner : String) (index : Nat)
    (items : List RequestValue) (hkeys : ∀ v ∈ items, v.Keyed) :
    pairOmissions (nestedKey path inner) index items =
      (pairOmissions inner index items).map (.under path) := by
  cases items with
  | nil => simp [pairOmissions]
  | cons item rest =>
      obtain ⟨hitem, hrest⟩ := List.forall_mem_cons.1 hkeys
      have hlater := pairOmissions_nestedKey hpath inner (index + 1) rest hrest
      cases item with
      | pair key value =>
          have hkey : key ≠ "" := hitem key value .self
          have hinside := omissions_nestedKey hpath (.under key) (pathUnder inner key) value
            (hitem.of_part (.value .self))
          rw [pairOmissions, pairOmissions, ← nestedKey_pathUnder hpath hkey, hinside, hlater]
          cases value.meaning (.under key) with
          | some v => simp
          | none => simp [Issue.under]
      | _ =>
          rw [pairOmissions, pairOmissions, hlater]
          · rfl
          all_goals simp

theorem elementOmissions_nestedKey {path : String} (hpath : path ≠ "") (inner : String)
    (index : Nat) (items : List RequestValue) (hkeys : ∀ v ∈ items, v.Keyed) :
    elementOmissions (nestedKey path inner) index items =
      (elementOmissions inner index items).map (.under path) := by
  cases items with
  | nil => simp [elementOmissions]
  | cons item rest =>
      obtain ⟨hitem, hrest⟩ := List.forall_mem_cons.1 hkeys
      have hinside := omissions_nestedKey hpath .field inner item hitem
      have hlater := elementOmissions_nestedKey hpath inner (index + 1) rest hrest
      rw [elementOmissions, elementOmissions, hinside, hlater]
      cases item.meaning .field with
      | some v => simp
      | none => simp [Issue.under]

end

theorem omissions_under {path : String} (hpath : path ≠ "") (place : Place) {v : RequestValue}
    (hkeys : v.Keyed) : v.omissions place path = (v.omissions place "").map (.under path) :=
  omissions_nestedKey hpath place "" v hkeys

end RequestValue

theorem Draft.diagnostics_foldl_report (draft : Draft) (category : Category) (issues : List Issue) :
    (issues.foldl (fun draft i => draft.report category i.path i.reason) draft).diagnostics =
      draft.diagnostics ++ issues.map fun i => ⟨category, i.path, i.reason⟩ := by
  induction issues generalizing draft with
  | nil => exact (List.append_nil _).symm
  | cons i rest ih =>
      rw [List.foldl_cons, ih, List.map_cons]
      exact List.append_assoc _ _ _

/-- Issues that were reported to a draft of their own are taken over as those of a value under the path. -/
theorem Draft.diagnostics_absorb_reports (draft : Draft) (outer inner : Category) (path : String)
    (issues : List Issue) :
    (draft.absorb outer path
        (issues.foldl (fun nested i => nested.report inner i.path i.reason) empty)).diagnostics =
      ((issues.map (Issue.under path)).foldl (fun draft i => draft.report outer i.path i.reason)
        draft).diagnostics := by
  rw [diagnostics_foldl_report, absorb, diagnostics_foldl_report, List.map_map,
    show empty.diagnostics = [] from rfl, List.nil_append, List.map_map]
  rfl

namespace RequestValue

/-- **Coercion depends neither on its path nor on its history.** What comes of a value in either place is
the same under every path and after any issues. What is left out of it is added behind these issues, and
it is what is left out under no path, in the same order and for the same reasons, with the path in front
of the path of each issue. So it is reported under the names under which a draft takes over the
diagnostics of a nested one. -/
theorem coercion_is_relocatable {v : RequestValue} (hkeys : v.Keyed) (path : String)
    (issues : List Issue) :
    (v.coerce .field path issues).1 = v.asField? ∧
      (v.coerce .operand path issues).1 = v.asOperand? ∧
      ∀ place, (v.coerce place path issues).2 = issues ++ (v.coerce place path []).2 ∧
        (path ≠ "" →
          (v.coerce place path []).2 = (v.coerce place "" []).2.map (fun i =>
            ⟨if i.path = "" then path else path ++ "." ++ i.path, i.reason⟩) ∧
          ∀ (draft : Draft) (outer inner : Category),
            (draft.absorb outer path ((v.coerce place "" []).2.foldl
                (fun nested i => nested.report inner i.path i.reason) empty)).diagnostics =
              ((v.coerce place path []).2.foldl
                (fun draft i => draft.report outer i.path i.reason) draft).diagnostics) := by
  refine ⟨?_, ?_, fun place => ⟨?_, fun hpath => ?_⟩⟩
  · rw [coerce_eq, asField?_eq_meaning]
  · rw [coerce_eq, asOperand?_eq_meaning]
  · rw [coerce_issues, coerce_eq]
  · have hunder := omissions_under hpath place hkeys
    rw [coerce_issues, coerce_issues]
    refine ⟨hunder, fun draft outer inner => ?_⟩
    rw [hunder]
    exact draft.diagnostics_absorb_reports outer inner path _

/-- Pairs with something left out at three paths: of an operand, of the list itself and of a pair. -/
def leakyPairs : Json := .array [
  .object [("key", .string "size"),
    ("value", .object [("key", .string "$in"), ("value", .array [.null, .number (.int 2)])])],
  .number (.int 1),
  .object [("key", .string "label")]]

theorem coercion_is_relocatable_leakyPairs :
    (ofJson leakyPairs).Keyed ∧
      ((ofJson leakyPairs).coerce .field "" []).2 = [⟨"size", .droppedElement 0⟩,
        ⟨"", .droppedElement 1⟩, ⟨"label", .unsupportedValue⟩] ∧
      ((ofJson leakyPairs).coerce .field "item" [⟨"other", .unsupportedValue⟩]).2 =
        [⟨"other", .unsupportedValue⟩, ⟨"item.size", .droppedElement 0⟩,
          ⟨"item", .droppedElement 1⟩, ⟨"item.label", .unsupportedValue⟩] := by
  have hkeys := keyed_ofJson leakyPairs
  have halone : ((ofJson leakyPairs).coerce .field "" []).2 = [⟨"size", .droppedElement 0⟩,
      ⟨"", .droppedElement 1⟩, ⟨"label", .unsupportedValue⟩] := rfl
  obtain ⟨-, -, hissues⟩ := coercion_is_relocatable hkeys "item" [⟨"other", .unsupportedValue⟩]
  obtain ⟨hadded, hunder⟩ := hissues .field
  refine ⟨hkeys, halone, ?_⟩
  rw [hadded, (hunder (by decide)).1, halone]
  decide

end RequestValue

end FilterQuery
