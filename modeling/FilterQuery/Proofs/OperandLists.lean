import FilterQuery.Proofs.Attribution
import FilterQuery.Proofs.Merging
import Mathlib.Algebra.BigOperators.Group.List.Basic

/-!
# Lists behind an operator

The operand of an operator may be a list, and each of its elements is coerced as under a field. An
element that comes to nothing is dropped and its position reported under the field. But the elements
are coerced under that same field: one that is a list of pairs reports the items that it leaves out of
its document there too, each with a position in the element and not in the operand. So every dropped
element is reported, but a reported position is that of a dropped element only as long as no element
holds a list of its own at the same path.
-/

namespace FilterQuery

open Draft

def Reason.droppedPosition? : Reason → Option Nat
  | .droppedElement index => some index
  | _ => none

/-- The position in a record of a dropped element, if it stands under the path. -/
def Issue.droppedUnder? (path : String) (i : Issue) : Option Nat :=
  if i.path = path then i.reason.droppedPosition? else none

def Diagnostic.droppedUnder? (key : String) (d : Diagnostic) : Option Nat :=
  if d.key = key then d.reason.droppedPosition? else none

/-- The positions of dropped elements that are reported under a key, in the order of the reports. -/
def Compiled.dropsUnder (c : Compiled) (key : String) : List Nat :=
  c.diagnostics.filterMap (Diagnostic.droppedUnder? key)

theorem ne_of_isUnder_below {path key name : String} (h : IsUnder (path ++ "." ++ key) name) :
    name ≠ path := by
  intro heq
  subst heq
  have hdot : ".".length = 1 := rfl
  rcases h with heq | ⟨below, heq⟩
  · have hlength := congrArg String.length heq
    simp only [String.length_append] at hlength
    omega
  · have hlength := congrArg String.length heq
    simp only [String.length_append] at hlength
    omega

namespace RequestValue

/-- The positions that coercing a value under a field records under the very path of that field. -/
def ownDrops (path : String) (v : RequestValue) : List Nat :=
  (v.coerce .field path []).2.filterMap (Issue.droppedUnder? path)

/-- The positions of the elements that come to nothing. -/
def meaninglessPositions (values : List RequestValue) : List Nat :=
  (values.zipIdx.filter fun item => item.1.asField?.isNone).map Prod.snd

/-- Whether the value is a list or comes to one behind operators alone. -/
def leadsToList : RequestValue → Bool
  | .array _ => true
  | .pair key value => isOperator key && value.leadsToList
  | _ => false

theorem meanings_eq_filterMap (items : List RequestValue) :
    meanings items = items.filterMap asField? := by
  induction items with
  | nil => rfl
  | cons item rest ih =>
      rw [meanings, List.filterMap_cons, asField?_eq_meaning, ih]
      cases item.meaning .field with
      | none => rfl
      | some v => rfl

theorem elementOmissions_eq_flatMap (path : String) (index : Nat) (items : List RequestValue) :
    elementOmissions path index items =
      (items.zipIdx index).flatMap fun item => item.1.omissions .field path ++
        if item.1.asField?.isNone then [⟨path, .droppedElement item.2⟩] else [] := by
  induction items generalizing index with
  | nil => rfl
  | cons item rest ih =>
      rw [elementOmissions, List.zipIdx_cons, List.flatMap_cons, asField?_eq_meaning, ih]
      cases item.meaning .field with
      | none => simp
      | some v => simp

theorem filterMap_droppedUnder?_elementOmissions (path : String) (items : List RequestValue) :
    (elementOmissions path 0 items).filterMap (Issue.droppedUnder? path) =
      items.zipIdx.flatMap fun item => item.1.ownDrops path ++
        if item.1.asField?.isNone then [item.2] else [] := by
  rw [elementOmissions_eq_flatMap, List.filterMap_flatMap]
  apply List.flatMap_congr
  intro item _
  rw [List.filterMap_append, ownDrops, coerce_issues]
  cases item.1.asField? with
  | none => simp [Issue.droppedUnder?, Reason.droppedPosition?]
  | some v => rfl

theorem meaninglessPositions_eq_flatMap (values : List RequestValue) :
    meaninglessPositions values =
      values.zipIdx.flatMap fun item => if item.1.asField?.isNone then [item.2] else [] := by
  rw [meaninglessPositions]
  induction values.zipIdx with
  | nil => rfl
  | cons item rest ih =>
      rw [List.filter_cons, List.flatMap_cons, ← ih]
      cases item.1.asField? with
      | none => rfl
      | some v => rfl

/-- Nothing stands between the positions of the elements if and only if no element has any of its own. -/
theorem flatMap_ownDrops_eq_iff (path : String) (values : List RequestValue) :
    (values.zipIdx.flatMap fun item => item.1.ownDrops path ++
        if item.1.asField?.isNone then [item.2] else []) = meaninglessPositions values ↔
      ∀ v ∈ values, v.ownDrops path = [] := by
  have hvalues : (∀ v ∈ values, v.ownDrops path = []) ↔
      ∀ item ∈ values.zipIdx, item.1.ownDrops path = [] := by
    conv_lhs => rw [← List.zipIdx_map_fst 0 values]
    exact List.forall_mem_map
  rw [meaninglessPositions_eq_flatMap, hvalues]
  constructor
  · intro heq
    -- both lists are as long as their parts together, which leaves nothing for the elements' own
    have hlength := congrArg List.length heq
    simp only [List.length_flatMap, List.length_append, List.sum_map_add] at hlength
    have hzero : (values.zipIdx.map fun item => (item.1.ownDrops path).length).sum = 0 := by omega
    rw [List.sum_eq_zero_iff_forall_eq_nat] at hzero
    intro item hitem
    exact List.eq_nil_of_length_eq_zero (hzero _ (List.mem_map.2 ⟨item, hitem, rfl⟩))
  · intro hnone
    apply List.flatMap_congr
    intro item hitem
    rw [hnone item hitem, List.nil_append]

/-- A value that leads to no list records nothing under its own path, but only below it. -/
theorem path_ne_of_mem_omissions (place : Place) {path : String} (hpath : path ≠ "")
    (v : RequestValue) (hlist : v.leadsToList = false) :
    ∀ i ∈ v.omissions place path, i.path ≠ path := by
  cases v with
  | pair key value =>
      intro i hi
      rw [omissions] at hi
      by_cases hkey : isOperator key = true
      · have hvalue : value.leadsToList = false := by simpa [leadsToList, hkey] using hlist
        rw [pathUnder, if_pos hkey] at hi
        exact path_ne_of_mem_omissions (.under key) hpath value hvalue i hi
      · rw [pathUnder, if_neg hkey, joinPath, if_neg hpath] at hi
        have hbelow : path ++ "." ++ key ≠ "" := by simp
        exact ne_of_isUnder_below (value.isUnder_of_mem_omissions (.under key) hbelow i hi)
  | array items => cases hlist
  | _ => simp [omissions]

theorem ownDrops_eq_nil {path : String} (hpath : path ≠ "") {v : RequestValue}
    (hlist : v.leadsToList = false) : v.ownDrops path = [] := by
  rw [ownDrops, coerce_issues, List.filterMap_eq_nil_iff]
  intro i hi
  rw [Issue.droppedUnder?, if_neg (v.path_ne_of_mem_omissions .field hpath hlist i hi)]

end RequestValue

theorem Match.clause_operand {op : String} (hop : isOperator op = true) (key : String)
    (values : List RequestValue) :
    (Match.mk key (.pair op (.array values))).path = key ∧
      (Match.mk key (.pair op (.array values))).clause =
        (some (.operator op (.array (values.filterMap RequestValue.asField?))),
          RequestValue.elementOmissions key 0 values) := by
  have hpath : pathUnder key op = key := if_pos hop
  have hplace : Place.under op = .operand := if_pos hop
  refine ⟨hpath, ?_⟩
  rw [clause_pair, hplace, hpath, if_pos hop, RequestValue.meaning,
    RequestValue.omissions, RequestValue.meanings_eq_filterMap]
  rfl

section Library

variable [RegexLibrary]

theorem filterMap_droppedUnder?_faultReports (category : Category) (key k : String)
    (value : QueryValue) :
    (faultReports category key value).filterMap (Diagnostic.droppedUnder? k) = [] := by
  rw [List.filterMap_eq_nil_iff]
  intro d hd
  obtain ⟨message, -, rfl⟩ := List.mem_map.1 hd
  unfold Diagnostic.droppedUnder?
  split <;> rfl

theorem Entry.history_operand {key op : String} (hkey : Text.isBlank key = false)
    (hop : isOperator op = true) (values : List RequestValue) :
    (Entry.equality ⟨key, .pair op (.array values)⟩).history =
      (.count :: (RequestValue.elementOmissions key 0 values).map fun i =>
        .report .equality i.path i.reason) ++
      [.write .equality key (.operator op (.array (values.filterMap RequestValue.asField?)))] := by
  obtain ⟨hpath, hclause⟩ := Match.clause_operand hop key values
  simp only [history, notes, clause?, hkey, hclause, hpath, Bool.false_eq_true, ↓reduceIte,
    Option.isNone_some, Option.map_some, List.append_nil]
  rfl

/-- No write reports a dropped element, so the reports of a history are those of its notes. -/
theorem Draft.dropsUnder_run (key : String) (actions : List Action) :
    (empty.run actions).compiled.dropsUnder key =
      (actions.flatMap Action.diagnostics).filterMap (Diagnostic.droppedUnder? key) := by
  have hlost : ∀ d : Diagnostic, d.isOverwritten = true →
      (d.droppedUnder? key).isSome = false := by
    rintro ⟨category, k, reason⟩ hover
    cases reason with
    | overwritten previous =>
        unfold Diagnostic.droppedUnder?
        split <;> rfl
    | _ => cases hover
  have hkeep : ∀ ds : List Diagnostic, ds.filterMap (Diagnostic.droppedUnder? key) =
      (ds.filter fun d => (d.droppedUnder? key).isSome).filterMap
        (Diagnostic.droppedUnder? key) := by
    intro ds
    rw [List.filterMap_filter]
    apply List.filterMap_congr
    intro d _
    cases d.droppedUnder? key with
    | none => rfl
    | some index => rfl
  rw [Compiled.dropsUnder, hkeep, hkeep (actions.flatMap _), compiled,
    filter_diagnostics_run_empty _ hlost]

theorem Draft.flatMap_diagnostics_report {α : Type} (category : Category) (key : α → String)
    (reason : α → Reason) (items : List α) :
    (items.map fun a => Action.report category (key a) (reason a)).flatMap Action.diagnostics =
      items.map fun a => ⟨category, key a, reason a⟩ := by
  rw [List.flatMap_map, List.map_eq_flatMap]
  rfl

theorem dropsUnder_operand {key op : String} (hkey : Text.isBlank key = false)
    (hop : isOperator op = true) (values : List RequestValue) :
    (empty.run (Entry.equality ⟨key, .pair op (.array values)⟩).history).compiled.dropsUnder key =
      values.zipIdx.flatMap fun item => item.1.ownDrops key ++
        if item.1.asField?.isNone then [item.2] else [] := by
  have hreports : ∀ issues : List Issue,
      ((issues.map fun i => Action.report .equality i.path i.reason).flatMap
        Action.diagnostics).filterMap (Diagnostic.droppedUnder? key) =
          issues.filterMap (Issue.droppedUnder? key) := by
    intro issues
    rw [Draft.flatMap_diagnostics_report, List.filterMap_map]
    rfl
  rw [Draft.dropsUnder_run, Entry.history_operand hkey hop, List.flatMap_append,
    List.filterMap_append, List.flatMap_cons, List.filterMap_append, hreports,
    RequestValue.filterMap_droppedUnder?_elementOmissions]
  simp [Action.diagnostics, filterMap_droppedUnder?_faultReports]

theorem Request.draft_match (m : Match) :
    Request.draft { query := { equalities := [m] } } =
      empty.run (Entry.equality m).history := by
  rw [Request.draft_equalities, ← addMatch_eq_run]
  rfl

/-- **Every dropped element of an operand is reported, and some more.** The match is compiled to the
operator with what comes of the elements, in their order. Under its key the positions of dropped
elements are reported element by element: first those that coercing the element records under that very
key, and then its own if nothing comes of it. So every element that is missing has its position reported.
The positions are exactly those of the missing elements if and only if no element records any of its own
under the key, as is the case where none is a list or comes to one behind operators alone. -/
theorem operand_drops_are_reported {key op : String} (hkey : Text.isBlank key = false)
    (hop : isOperator op = true) (values : List RequestValue) :
    ∃ c, ({ query := { equalities := [⟨key, .pair op (.array values)⟩] } } : Request).compile false =
        .ok c ∧
      c.clauses.get? key =
        some (.operator op (.array (values.filterMap RequestValue.asField?))) ∧
      c.dropsUnder key = (values.zipIdx.flatMap fun item => item.1.ownDrops key ++
        if item.1.asField?.isNone then [item.2] else []) ∧
      (∀ index v, values[index]? = some v ∧ v.asField? = none → index ∈ c.dropsUnder key) ∧
      (c.dropsUnder key = RequestValue.meaninglessPositions values ↔
        ∀ v ∈ values, v.ownDrops key = []) ∧
      ((∀ v ∈ values, v.leadsToList = false) →
        c.dropsUnder key = RequestValue.meaninglessPositions values) := by
  have hdraft := Request.draft_match ⟨key, .pair op (.array values)⟩
  have hdrops := dropsUnder_operand hkey hop values
  have hiff := RequestValue.flatMap_ownDrops_eq_iff key values
  refine ⟨_, Request.compile_false _, ?_, ?_, ?_, ?_, ?_⟩
  · rw [hdraft, compiled, get?_clauses_run_empty, Entry.lastWritten?_history_eq_some_iff,
      Entry.clause?, hkey, (Match.clause_operand hop key values).1,
      (Match.clause_operand hop key values).2]
    rfl
  · rw [hdraft, hdrops]
  · rintro index v ⟨hv, hnone⟩
    rw [hdraft, hdrops, List.mem_flatMap]
    refine ⟨(v, index), List.mk_mem_zipIdx_iff_getElem?.2 hv, ?_⟩
    rw [hnone]
    exact List.mem_append_right _ (List.mem_singleton.2 rfl)
  · rw [hdraft, hdrops, hiff]
  · intro hlists
    rw [hdraft, hdrops, hiff]
    intro v hv
    exact RequestValue.ownDrops_eq_nil (Text.ne_empty_of_isBlank_eq_false hkey) (hlists v hv)

end Library

/-- A list of pairs among the elements, with an item that is no pair. -/
def nestedElements : List RequestValue := [.array [.int 1, .pair "a" (.int 2)], .int 3, .null]

/-- Nothing but the null at position 2 is missing, and the item at position 0 of the first element is
reported besides. -/
theorem operand_drops_are_reported_nestedElements :
    ∃ c, ({ query := { equalities := [⟨"kind", .pair "$in" (.array nestedElements)⟩] } } :
        Request).compile false = .ok c ∧
      c.dropsUnder "kind" = [0, 2] ∧ RequestValue.meaninglessPositions nestedElements = [2] := by
  have hkey : Text.isBlank "kind" = false := rfl
  have hop : isOperator "$in" = true := rfl
  obtain ⟨c, hc, -, hdrops, -⟩ := operand_drops_are_reported hkey hop nestedElements
  refine ⟨c, hc, ?_, ?_⟩
  · rw [hdrops]
    decide +kernel
  · decide +kernel

/-- An element with a value, and the position of one of its items is reported under the key. -/
theorem operand_drops_of_list_of_pairs :
    ∃ c, ({ query := { equalities :=
          [⟨"kind", .pair "$in" (.array [.array [.int 1, .pair "a" (.int 2)]])⟩] } } :
        Request).compile false = .ok c ∧
      c.dropsUnder "kind" = [0] ∧
      RequestValue.meaninglessPositions [.array [.int 1, .pair "a" (.int 2)]] = [] :=
  ⟨_, Request.compile_false _, by decide +kernel, by decide +kernel⟩

end FilterQuery
