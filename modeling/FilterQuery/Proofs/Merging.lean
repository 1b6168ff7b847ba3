import FilterQuery.Proofs.Meaning

/-!
# Merging the pairs of a list

Under a field a list of pairs becomes one document. The loop that does it coerces the value of each
pair, puts what comes of it into the document and records what comes to nothing, so every item is met
with a document and with issues that the items before it left. Both turn out to be put together item by
item. The document is the map of the pairs that something comes of, in which the last of each key
counts, and the issues of an item depend on the item, its position and the path alone.
-/

namespace FilterQuery

namespace RequestValue

/-- The key and the value that an item adds to the document: a pair does so if something comes of its
value, and an operator needs an operand for that. -/
def usable? : RequestValue → Option (String × QueryValue)
  | .pair key value =>
    if isOperator key then
      if value.isNull then none else value.asOperand?.map fun v => (key, v)
    else value.asField?.map fun v => (key, v)
  | _ => none

/-- The issues inside of the value of a pair. Other items are not looked into. -/
def insideIssues (path : String) : RequestValue → List Issue
  | .pair key value =>
    if isOperator key then (value.coerce .operand path []).2
    else (value.coerce .field (joinPath path key) []).2
  | _ => []

/-- The record of an item that adds nothing to the document. -/
def unusedIssue (path : String) (index : Nat) : RequestValue → Issue
  | .pair key value =>
    if isOperator key then ⟨path, if value.isNull then .emptyOperand key else .unsupportedValue⟩
    else ⟨joinPath path key, .unsupportedValue⟩
  | _ => ⟨path, .droppedElement index⟩

def mergeIssues (path : String) (index : Nat) (item : RequestValue) : List Issue :=
  item.insideIssues path ++ if item.usable?.isSome then [] else [item.unusedIssue path index]

theorem usable?_pair (key : String) (value : RequestValue) :
    (pair key value).usable? = (value.meaning (.under key)).map fun v => (key, v) := by
  rw [usable?, asOperand?_eq_meaning, asField?_eq_meaning]
  by_cases hkey : isOperator key = true
  · cases value with
    | null => simp [hkey, isNull, meaning]
    | _ => simp [Place.under, hkey, isNull]
  · simp [Place.under, hkey]

theorem insideIssues_pair (path key : String) (value : RequestValue) :
    (pair key value).insideIssues path = value.omissions (.under key) (pathUnder path key) := by
  rw [insideIssues, coerce_issues, coerce_issues, Place.under, pathUnder]
  split <;> rfl

theorem unusedIssue_pair (path : String) (index : Nat) (key : String) (value : RequestValue) :
    (pair key value).unusedIssue path index = ⟨pathUnder path key, (pair key value).fault⟩ := by
  rw [unusedIssue, pathUnder]
  by_cases hkey : isOperator key = true
  · cases value with
    | _ => simp [hkey, isNull, fault]
  · cases value with
    | _ => simp [hkey, fault]

theorem mergeIssues_of_not_isPair {path : String} {index : Nat} {item : RequestValue}
    (h : ¬ item.IsPair) :
    item.usable? = none ∧ item.mergeIssues path index = [⟨path, .droppedElement index⟩] := by
  cases item with
  | pair key value => exact absurd trivial h
  | _ => exact ⟨rfl, rfl⟩

theorem mergedWith_eq_foldl (items : List RequestValue) (doc : QueryDocument) :
    mergedWith doc items =
      (items.filterMap usable?).foldl (fun doc e => doc.insert e.1 e.2) doc := by
  induction items generalizing doc with
  | nil => rfl
  | cons item rest ih =>
      cases item with
      | pair key value =>
          rw [mergedWith, List.filterMap_cons, usable?_pair]
          cases value.meaning (.under key) with
          | none => exact ih doc
          | some v => exact ih (doc.insert key v)
      | _ =>
          rw [mergedWith]
          · exact ih doc
          · simp

theorem pairOmissions_eq_flatMap (path : String) (index : Nat) (items : List RequestValue) :
    pairOmissions path index items =
      (items.zipIdx index).flatMap fun item => item.1.mergeIssues path item.2 := by
  induction items generalizing index with
  | nil => rfl
  | cons item rest ih =>
      rw [List.zipIdx_cons, List.flatMap_cons]
      cases item with
      | pair key value =>
          rw [pairOmissions, mergeIssues, insideIssues_pair, unusedIssue_pair, usable?_pair, ih]
          cases value.meaning (.under key) with
          | none => simp
          | some v => simp
      | _ =>
          rw [pairOmissions, (mergeIssues_of_not_isPair id).2, ih]
          · rfl
          · simp

/-- **The last usable pair of each key counts.** A list under a field comes to nothing if and only if
none of its items is usable. Otherwise it comes to a document with the keys of its usable items, each
with the value of the last usable item of that key. What is recorded follows the items: first the
issues inside of an item's value, and then one more if the item is not usable. -/
theorem merging_is_last_usable_wins (path : String) (items : List RequestValue)
    (issues : List Issue) :
    ∃ result, (RequestValue.array items).coerce .field path issues =
        (result, issues ++ items.zipIdx.flatMap fun item =>
          item.1.insideIssues path ++
            if item.1.usable?.isSome then [] else [item.1.unusedIssue path item.2]) ∧
      (result = none ↔ ∀ item ∈ items, item.usable? = none) ∧
      ∀ v ∈ result, ∃ doc : QueryDocument, v = .ofDocument doc ∧
        (∀ key, doc.contains key = true ↔ ∃ item ∈ items, ∃ w, item.usable? = some (key, w)) ∧
        ∀ key, doc.get? key = (items.filterMap usable?).reverse.lookup key := by
  have hdoc : mergedWith .empty items = .ofList (items.filterMap usable?) :=
    mergedWith_eq_foldl items .empty
  refine ⟨(RequestValue.array items).meaning .field, ?_, ?_, ?_⟩
  · rw [coerce_eq, omissions, pairOmissions_eq_flatMap]
    rfl
  · rw [← List.filterMap_eq_nil_iff, ← KeyMap.isEmpty_ofList_iff, ← hdoc, meaning]
    cases (mergedWith .empty items).isEmpty with
    | true => simp
    | false => simp
  · intro v hv
    rw [meaning, Option.mem_def] at hv
    simp only [Option.ite_none_left_eq_some, Option.some.injEq] at hv
    obtain ⟨-, rfl⟩ := hv
    refine ⟨mergedWith .empty items, rfl, fun key => ?_, fun key => ?_⟩
    · rw [hdoc, KeyMap.contains_ofList_iff]
      constructor
      · rintro ⟨w, hw⟩
        obtain ⟨item, hitem, husable⟩ := List.mem_filterMap.1 hw
        exact ⟨item, hitem, w, husable⟩
      · rintro ⟨item, hitem, w, husable⟩
        exact ⟨w, List.mem_filterMap.2 ⟨item, hitem, husable⟩⟩
    · rw [hdoc, KeyMap.get?_ofList]

/-- A later pair without a usable value does not take an earlier one back. -/
example : (array [.pair "$gt" (.int 1), .pair "label" .null, .int 7, .pair "$gt" .null]).coerce
      .field "score" [] =
    (some (.document [("$gt", .int 1)]), [⟨"score.label", .unsupportedValue⟩,
      ⟨"score", .droppedElement 2⟩, ⟨"score", .emptyOperand "$gt"⟩]) := rfl

end RequestValue

end FilterQuery
