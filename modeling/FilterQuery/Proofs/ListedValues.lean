import FilterQuery.Proofs.Completeness
import FilterQuery.Proofs.Composition
import FilterQuery.Proofs.OperandLists

/-!
# Lists of values and lists behind an operator

A list of values can be asked for in two ways: as an entry of its own, or as a match whose operand is
the list behind the same operator. Both write the same kind of clause, but not by the same rule. The
entry keeps texts, numbers and truth values and drops all else; the match keeps whatever has a meaning
under a field. The first rule keeps no value that the second does not, and comes to the same result for
it. So the entry always writes a subsequence of what the match writes, and they write the same list if
and only if no pair and no list among the values has a meaning. Without pairs and lists they also say
the same.
-/

namespace FilterQuery

open Draft

section

variable {α β : Type} {f g : α → Option β} (h : ∀ a b, f a = some b → g a = some b)

include h

theorem filterMap_sublist_filterMap (items : List α) :
    (items.filterMap f).Sublist (items.filterMap g) := by
  induction items with
  | nil => exact List.Sublist.refl []
  | cons a rest ih =>
      cases hf : f a with
      | some b =>
          rw [List.filterMap_cons_some hf, List.filterMap_cons_some (h a b hf)]
          exact ih.cons_cons b
      | none =>
          rw [List.filterMap_cons_none hf]
          cases hg : g a with
          | some b =>
              rw [List.filterMap_cons_some hg]
              exact ih.cons b
          | none =>
              rw [List.filterMap_cons_none hg]
              exact ih

/-- The stricter rule keeps the same list only if the rules agree on every item. -/
theorem filterMap_eq_filterMap_iff (items : List α) :
    items.filterMap f = items.filterMap g ↔ ∀ a ∈ items, f a = g a := by
  refine ⟨fun heq => ?_, List.filterMap_congr⟩
  induction items with
  | nil => exact fun a ha => absurd ha List.not_mem_nil
  | cons a rest ih =>
      rw [List.forall_mem_cons]
      cases hf : f a with
      | some b =>
          have hg := h a b hf
          rw [List.filterMap_cons_some hf, List.filterMap_cons_some hg] at heq
          exact ⟨hg.symm, ih (List.cons.inj heq).2⟩
      | none =>
          rw [List.filterMap_cons_none hf] at heq
          cases hg : g a with
          | some b =>
              -- the rest would have to make up for the item, but there it keeps no more either
              rw [List.filterMap_cons_some hg] at heq
              have hlength := (filterMap_sublist_filterMap h rest).length_le
              rw [heq, List.length_cons] at hlength
              omega
          | none =>
              rw [List.filterMap_cons_none hg] at heq
              exact ⟨rfl, ih heq⟩

end

namespace RequestValue

/-- Whether the value is a text, a number or a truth value. -/
def isScalar : RequestValue → Bool
  | .bool _ => true
  | .int _ => true
  | .float _ => true
  | .string _ => true
  | _ => false

/-- Whether the value holds other values. -/
def isCompound : RequestValue → Bool
  | .pair _ _ => true
  | .array _ => true
  | _ => false

/-- The positions, in ascending order, of the values that are no scalars. -/
def otherPositions (values : List RequestValue) : List Nat :=
  (values.zipIdx.filter fun item => !item.1.isScalar).map Prod.snd

theorem isSome_element? (v : RequestValue) : v.element?.isSome = v.isScalar := by
  cases v with
  | _ => rfl

theorem element?_eq_asField? {v : RequestValue} (h : v.isCompound = false) :
    v.element? = v.asField? := by
  rw [asField?_eq_meaning]
  cases v with
  | pair key value => cases h
  | array items => cases h
  | _ => rfl

theorem element?_of_isCompound {v : RequestValue} (h : v.isCompound = true) : v.element? = none := by
  cases v with
  | pair key value => rfl
  | array items => rfl
  | _ => cases h

theorem element?_eq_asField?_iff (v : RequestValue) :
    v.element? = v.asField? ↔ (v.isCompound = true → v.asField? = none) := by
  cases hv : v.isCompound with
  | true => simp [element?_of_isCompound hv, eq_comm]
  | false => simp [element?_eq_asField? hv]

theorem omissions_of_not_isCompound {v : RequestValue} (h : v.isCompound = false) (place : Place)
    (path : String) : v.omissions place path = [] := by
  cases v with
  | pair key value => cases h
  | array items => cases h
  | _ => rw [omissions] <;> simp

/-- The elements of a list are the meanings of its scalars. -/
theorem map_some_filterMap_element?_filter (values : List RequestValue) :
    (values.filterMap element?).map some = (values.filter isScalar).map asField? := by
  have hfilter : (values.filter isScalar).filterMap element? = values.filterMap element? := by
    rw [List.filterMap_filter]
    apply List.filterMap_congr
    intro v _
    cases v with
    | _ => rfl
  rw [← hfilter]
  apply map_some_filterMap_element?
  intro v hv
  rw [isSome_element?]
  exact (List.mem_filter.1 hv).2

theorem droppedPositions_eq_otherPositions (values : List RequestValue) :
    droppedPositions 0 values = otherPositions values := by
  have hfrom : ∀ index, droppedPositions index values =
      ((values.zipIdx index).filter fun item => !item.1.isScalar).map Prod.snd := by
    induction values with
    | nil => exact fun index => rfl
    | cons v rest ih =>
        intro index
        rw [droppedPositions, List.zipIdx_cons, List.filter_cons, ih, ← isSome_element?]
        cases v.element? with
        | none => rfl
        | some item => rfl
  exact hfrom 0

/-- Without pairs and lists, coercing the elements of an operand records what an entry drops. -/
theorem elementOmissions_of_forall_not_isCompound (path : String) (index : Nat)
    {values : List RequestValue} (h : ∀ v ∈ values, v.isCompound = false) :
    elementOmissions path index values =
      (droppedPositions index values).map fun i => ⟨path, .droppedElement i⟩ := by
  induction values generalizing index with
  | nil => rfl
  | cons v rest ih =>
      obtain ⟨hv, hrest⟩ := List.forall_mem_cons.1 h
      rw [elementOmissions, droppedPositions, omissions_of_not_isCompound hv, ih _ hrest,
        element?_eq_asField? hv, asField?_eq_meaning]
      cases v.meaning .field with
      | none => rfl
      | some item => rfl

end RequestValue

theorem Quantifier.isOperator_operator (q : Quantifier) : isOperator q.operator = true := by
  cases q with
  | _ => rfl

section Library

variable [RegexLibrary]

namespace Entry

variable {key : String} (hkey : Text.isBlank key = false) (q : Quantifier)
  (values : List RequestValue)

include hkey

theorem clause?_membership : (Entry.membership q ⟨key, some values⟩).clause? =
    some (key, .operator q.operator (.array (values.filterMap RequestValue.element?))) := by
  simp [clause?, hkey]

theorem clause?_operand : (Entry.equality ⟨key, .pair q.operator (.array values)⟩).clause? =
    some (key, .operator q.operator (.array (values.filterMap RequestValue.asField?))) := by
  obtain ⟨hpath, hclause⟩ := Match.clause_operand q.isOperator_operator key values
  simp [clause?, hkey, hpath, hclause]

theorem said_membership : (Entry.membership q ⟨key, some values⟩).said =
    (droppedPositions 0 values).map (fun i => ⟨q.category, key, .droppedElement i⟩) ++
      faultReports q.category key
        (.operator q.operator (.array (values.filterMap RequestValue.element?))) := by
  rw [said, history, clause?_membership hkey]
  simp [notes, hkey, flatMap_diagnostics_report, Action.diagnostics, category]

theorem said_operand : (Entry.equality ⟨key, .pair q.operator (.array values)⟩).said =
    (RequestValue.elementOmissions key 0 values).map (fun i => ⟨.equality, i.path, i.reason⟩) ++
      faultReports .equality key
        (.operator q.operator (.array (values.filterMap RequestValue.asField?))) := by
  rw [said, history_operand hkey q.isOperator_operator]
  simp [flatMap_diagnostics_report, Action.diagnostics]

/-- Without pairs and lists the two entries say the same, each under its own category. -/
theorem said_operand_of_forall_not_isCompound (h : ∀ v ∈ values, v.isCompound = false) :
    (Entry.equality ⟨key, .pair q.operator (.array values)⟩).said =
      (Entry.membership q ⟨key, some values⟩).said.map fun d => { d with category := .equality } := by
  have hsame : values.filterMap RequestValue.element? = values.filterMap RequestValue.asField? :=
    List.filterMap_congr fun v hv => RequestValue.element?_eq_asField? (h v hv)
  rw [said_operand hkey, said_membership hkey, hsame,
    RequestValue.elementOmissions_of_forall_not_isCompound key 0 h, List.map_append]
  simp only [faultReports, List.map_map]
  rfl

end Entry

/-- **An entry for a list of values and a match with the list behind the operator.** Each of them,
compiled alone, writes one clause with the operator and a list under the key. The list of the entry has
the meanings of the scalars among the values, in their order, texts as patterns for the whole field. The
positions of all other values are reported as dropped, followed by the patterns that are faulty. The list
of the match has the meanings of all values that have one. So the first list is a subsequence of the
second, and they are equal if and only if no pair and no list among the values has a meaning. If there is
no pair and no list among them, the reports are the same too but for their category. -/
theorem listed_values_agree_with_operand {key : String} (hkey : Text.isBlank key = false)
    (q : Quantifier) (values : List RequestValue) :
    ∃ (listed asked : Compiled) (kept meant : List QueryValue),
      (Request.ofEntries [.membership q ⟨key, some values⟩]).compile false = .ok listed ∧
      (Request.ofEntries [.equality ⟨key, .pair q.operator (.array values)⟩]).compile false =
        .ok asked ∧
      listed.clauses.entries = [(key, .operator q.operator (.array kept))] ∧
      kept.map some = (values.filter RequestValue.isScalar).map RequestValue.asField? ∧
      (∀ s, .string s ∈ values → .regex (.exact s) ∈ kept) ∧
      listed.diagnostics =
        (RequestValue.otherPositions values).map (fun i => ⟨q.category, key, .droppedElement i⟩) ++
          faultReports q.category key (.operator q.operator (.array kept)) ∧
      asked.clauses.entries = [(key, .operator q.operator (.array meant))] ∧
      meant = values.filterMap RequestValue.asField? ∧
      kept.Sublist meant ∧
      (kept = meant ↔ ∀ v ∈ values, v.isCompound = true → v.asField? = none) ∧
      ((∀ v ∈ values, v.isCompound = false) →
        asked.diagnostics = listed.diagnostics.map fun d => { d with category := .equality }) := by
  obtain ⟨hlisted, hsaid⟩ := (Entry.membership q ⟨key, some values⟩).compiled_eq
  obtain ⟨hasked, hreported⟩ :=
    (Entry.equality ⟨key, .pair q.operator (.array values)⟩).compiled_eq
  rw [Entry.clause?_membership hkey] at hlisted
  rw [Entry.clause?_operand hkey] at hasked
  have hrules : ∀ v item, RequestValue.element? v = some item → v.asField? = some item :=
    fun v item => RequestValue.asField?_of_element?
  refine ⟨_, _, values.filterMap RequestValue.element?, values.filterMap RequestValue.asField?,
    Entry.compile_alone _, Entry.compile_alone _, hlisted,
    RequestValue.map_some_filterMap_element?_filter values, fun s hs => ?_, ?_, hasked, rfl,
    filterMap_sublist_filterMap hrules values, ?_, fun hnone => ?_⟩
  · exact List.mem_filterMap.2 ⟨.string s, hs, rfl⟩
  · rw [hsaid, Entry.said_membership hkey, RequestValue.droppedPositions_eq_otherPositions]
  · rw [filterMap_eq_filterMap_iff hrules]
    simp only [RequestValue.element?_eq_asField?_iff]
  · rw [hreported, hsaid, Entry.said_operand_of_forall_not_isCompound hkey q values hnone]

end Library

/-- A null, and a list that has a meaning as an operand's element. -/
def nestedValues : List RequestValue :=
  [.string "a", .null, .array [.pair "$gt" (.int 1)], .int 3]

/-- The entry drops the list, and the match keeps it. -/
theorem listed_values_agree_with_operand_nestedValues :
    ∃ (listed asked : Compiled) (kept meant : List QueryValue),
      (Request.ofEntries [.membership .anyOf ⟨"kind", some nestedValues⟩]).compile false = .ok listed ∧
      (Request.ofEntries [.equality ⟨"kind", .pair "$in" (.array nestedValues)⟩]).compile false =
        .ok asked ∧
      listed.clauses.entries = [("kind", .operator "$in" (.array kept))] ∧
      listed.diagnostics =
        [⟨.anyOf, "kind", .droppedElement 1⟩, ⟨.anyOf, "kind", .droppedElement 2⟩] ∧
      kept = [.regex (.exact "a"), .int 3] ∧
      asked.clauses.entries = [("kind", .operator "$in" (.array meant))] ∧
      kept.Sublist meant ∧ kept ≠ meant := by
  have hkey : Text.isBlank "kind" = false := rfl
  obtain ⟨listed, asked, kept, meant, hlisted, hasked, hwritten, hkept, -, hsaid, hput, -, hsub,
    hsame, -⟩ := listed_values_agree_with_operand hkey .anyOf nestedValues
  have hlist : kept = [.regex (.exact "a"), .int 3] := by
    apply List.map_injective_iff.2 (fun _ _ => Option.some.inj)
    exact hkept
  refine ⟨listed, asked, kept, meant, hlisted, hasked, hwritten, ?_, hlist, hput, hsub, ?_⟩
  · rw [hsaid, hlist]
    decide +kernel
  · rw [ne_eq, hsame]
    intro hnone
    have hmeaning := hnone (.array [.pair "$gt" (.int 1)]) (by simp [nestedValues]) rfl
    cases hmeaning

end FilterQuery
