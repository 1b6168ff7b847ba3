import FilterQuery.Coercion

/-!
# The meaning of a value

Coercion threads a path and a list of issues through two loops that call it again. Here it is taken
apart. What a value means depends on its place and on nothing else (`meaning`); what is left out of it
is a list of its own (`omissions`), which depends on the place and the path. `coerce_eq` says that a
coercion yields the one and appends the other, whatever was recorded before.
-/

namespace FilterQuery

/-- The reasons for which a part of a value is left out. -/
def Reason.isOmission : Reason → Bool
  | .unsupportedValue | .emptyOperand _ | .droppedElement _ => true
  | _ => false

namespace RequestValue

def IsPair : RequestValue → Prop
  | pair _ _ => True
  | _ => False

mutual

/-- What a value means in a place. -/
def meaning (place : Place) : RequestValue → Option QueryValue
  | .null => none
  | .bool b => some (.bool b)
  | .int n => some (.int n)
  | .float x => some (.float x)
  | .string s => some (place.text s)
  | .pair key value => (meaning (.under key) value).map (.operator key)
  | .array items =>
    match place with
    | .field =>
      let doc := mergedWith .empty items
      if doc.isEmpty then none else some (.ofDocument doc)
    | .operand => some (.array (meanings items))
  | .unsupported _ => none

/-- A document with the pairs of a list put into it; pairs without a meaning change nothing. -/
def mergedWith (doc : QueryDocument) : List RequestValue → QueryDocument
  | [] => doc
  | .pair key value :: rest =>
    match meaning (.under key) value with
    | some v => mergedWith (doc.insert key v) rest
    | none => mergedWith doc rest
  | _ :: rest => mergedWith doc rest

/-- The elements of a list that mean something under a field. -/
def meanings : List RequestValue → List QueryValue
  | [] => []
  | item :: rest =>
    match meaning .field item with
    | some v => v :: meanings rest
    | none => meanings rest

end

mutual

/-- What is left out from inside a value. -/
def omissions (place : Place) (path : String) : RequestValue → List Issue
  | .pair key value => omissions (.under key) (pathUnder path key) value
  | .array items =>
    match place with
    | .field => pairOmissions path 0 items
    | .operand => elementOmissions path 0 items
  | _ => []

/-- What is left out when the pairs of a list are merged; the items from `index` on. -/
def pairOmissions (path : String) (index : Nat) : List RequestValue → List Issue
  | [] => []
  | .pair key value :: rest =>
    let inside := omissions (.under key) (pathUnder path key) value
    match meaning (.under key) value with
    | some _ => inside ++ pairOmissions path (index + 1) rest
    | none =>
      inside ++ ⟨pathUnder path key, (RequestValue.pair key value).fault⟩
        :: pairOmissions path (index + 1) rest
  | _ :: rest => ⟨path, .droppedElement index⟩ :: pairOmissions path (index + 1) rest

/-- What is left out of a list of elements; the elements from `index` on. -/
def elementOmissions (path : String) (index : Nat) : List RequestValue → List Issue
  | [] => []
  | item :: rest =>
    let inside := omissions .field path item
    match meaning .field item with
    | some _ => inside ++ elementOmissions path (index + 1) rest
    | none => inside ++ ⟨path, .droppedElement index⟩ :: elementOmissions path (index + 1) rest

end

mutual

theorem coerce_eq (place : Place) (path : String) (v : RequestValue) (issues : List Issue) :
    v.coerce place path issues = (v.meaning place, issues ++ v.omissions place path) := by
  cases v with
  | null => simp [coerce, meaning, omissions]
  | bool b => simp [coerce, meaning, omissions]
  | int n => simp [coerce, meaning, omissions]
  | float x => simp [coerce, meaning, omissions]
  | string s => simp [coerce, meaning, omissions]
  | pair key value =>
      rw [coerce, coerce_eq (.under key) (pathUnder path key) value issues, meaning, omissions]
  | array items =>
      cases place with
      | field =>
          rw [coerce, coercePairs_eq path 0 items .empty issues]
          simp only [meaning, omissions]
      | operand =>
          rw [coerce, coerceElements_eq path 0 items issues]
          simp only [meaning, omissions]
  | unsupported raw => simp [coerce, meaning, omissions]

theorem coercePairs_eq (path : String) (index : Nat) (items : List RequestValue)
    (doc : QueryDocument) (issues : List Issue) :
    coercePairs path index items doc issues =
      (mergedWith doc items, issues ++ pairOmissions path index items) := by
  cases items with
  | nil => simp [coercePairs, mergedWith, pairOmissions]
  | cons item rest =>
      cases item with
      | pair key value =>
          rw [coercePairs, coerce_eq (.under key) (pathUnder path key) value issues]
          cases hmeaning : value.meaning (.under key) with
          | some v =>
              simp only
              rw [coercePairs_eq path (index + 1) rest]
              simp [mergedWith, pairOmissions, hmeaning]
          | none =>
              simp only
              rw [coercePairs_eq path (index + 1) rest]
              simp [mergedWith, pairOmissions, hmeaning]
      | _ =>
          rw [coercePairs, coercePairs_eq path (index + 1) rest]
          · simp [mergedWith, pairOmissions]
          · intros; simp_all

theorem coerceElements_eq (path : String) (index : Nat) (items : List RequestValue)
    (issues : List Issue) :
    coerceElements path index items issues =
      (meanings items, issues ++ elementOmissions path index items) := by
  cases items with
  | nil => simp [coerceElements, meanings, elementOmissions]
  | cons item rest =>
      rw [coerceElements, coerce_eq .field path item issues]
      cases hmeaning : item.meaning .field with
      | some v =>
          simp only
          rw [coerceElements_eq path (index + 1) rest]
          simp [meanings, elementOmissions, hmeaning]
      | none =>
          simp only
          rw [coerceElements_eq path (index + 1) rest]
          simp [meanings, elementOmissions, hmeaning]

end

theorem asField?_eq_meaning (v : RequestValue) : v.asField? = v.meaning .field := by
  rw [asField?, coerce_eq]

theorem asOperand?_eq_meaning (v : RequestValue) : v.asOperand? = v.meaning .operand := by
  rw [asOperand?, coerce_eq]

theorem coerce_issues (place : Place) (path : String) (v : RequestValue) :
    (v.coerce place path []).2 = v.omissions place path := by
  rw [coerce_eq, List.nil_append]

theorem isOmission_fault (v : RequestValue) : v.fault.isOmission = true := by
  cases v with
  | pair key value =>
      cases value with
      | null =>
          rw [fault]
          split <;> rfl
      | _ => rfl
  | _ => rfl

/-- A property of paths and issues that holds where an issue is made and goes from the path of a pair's
value up to that of the pair. -/
structure OmissionRule (P : String → Issue → Prop) : Prop where
  inside : ∀ path key i, P (pathUnder path key) i → P path i
  fault : ∀ path key value, P path ⟨pathUnder path key, (pair key value).fault⟩
  dropped : ∀ path index, P path ⟨path, .droppedElement index⟩

section

variable {P : String → Issue → Prop} (h : OmissionRule P)

include h

mutual

theorem forall_mem_omissions (place : Place) (path : String) (v : RequestValue) :
    ∀ i ∈ v.omissions place path, P path i := by
  cases v with
  | pair key value =>
      rw [omissions]
      intro i hi
      exact h.inside path key i (forall_mem_omissions (.under key) (pathUnder path key) value i hi)
  | array items =>
      cases place with
      | field => exact forall_mem_pairOmissions path 0 items
      | operand => exact forall_mem_elementOmissions path 0 items
  | _ =>
      rw [omissions]
      · exact fun i hi => absurd hi List.not_mem_nil
      all_goals simp

theorem forall_mem_pairOmissions (path : String) (index : Nat) (items : List RequestValue) :
    ∀ i ∈ pairOmissions path index items, P path i := by
  cases items with
  | nil => simp [pairOmissions]
  | cons item rest =>
      have hrest := forall_mem_pairOmissions path (index + 1) rest
      intro i hi
      cases item with
      | pair key value =>
          have hinside : ∀ i ∈ value.omissions (.under key) (pathUnder path key), P path i :=
            fun i hi => h.inside path key i (forall_mem_omissions _ _ value i hi)
          have hfault := h.fault path key value
          rw [pairOmissions] at hi
          grind
      | _ =>
          rw [pairOmissions] at hi
          · rcases List.mem_cons.1 hi with rfl | hi
            · exact h.dropped path index
            · exact hrest i hi
          · simp

theorem forall_mem_elementOmissions (path : String) (index : Nat) (items : List RequestValue) :
    ∀ i ∈ elementOmissions path index items, P path i := by
  cases items with
  | nil => simp [elementOmissions]
  | cons item rest =>
      have hrest := forall_mem_elementOmissions path (index + 1) rest
      have hinside := forall_mem_omissions .field path item
      have hthis := h.dropped path index
      intro i hi
      rw [elementOmissions] at hi
      grind

end

end

theorem isOmission_of_mem_omissions (place : Place) (path : String) (v : RequestValue) :
    ∀ i ∈ v.omissions place path, i.reason.isOmission = true := by
  have hrule : OmissionRule fun _ i => i.reason.isOmission = true :=
    { inside := fun _ _ _ hi => hi
      fault := fun _ key value => isOmission_fault (pair key value)
      dropped := fun _ _ => rfl }
  exact forall_mem_omissions hrule place path v

end RequestValue

end FilterQuery
