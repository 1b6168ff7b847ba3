import FilterQuery.Proofs.Accounting
import FilterQuery.Proofs.Losses
import Mathlib.Data.List.Forall2

/-!
# The order of entries without losses

A request may be reordered at two levels: the entries inside each list, and the matches inside each
entry for list elements. Entries and matches go the same way. If no clause is lost, the clauses have
distinct keys, and neither that nor the clauses themselves depend on the order; what is said is what the
entries say, in their order. At the inner level this makes an entry for list elements and its reordered
form one and the same to the draft, up to the order of what they say, and then the argument is made a
second time for the request.
-/

namespace FilterQuery

open Draft

section Library

variable [RegexLibrary]

/-- The two entries have the same effect on every draft, up to the order of what they say. -/
structure Entry.SameEffect (e f : Entry) : Prop where
  clause?_eq : e.clause? = f.clause?
  isSkipped_eq : e.isSkipped = f.isSkipped
  said_perm : e.said.Perm f.said

namespace Entry

theorem SameEffect.refl (e : Entry) : e.SameEffect e := ⟨rfl, rfl, .refl _⟩

theorem forall₂_sameEffect_self (entries : List Entry) : entries.Forall₂ SameEffect entries :=
  List.forall₂_same.2 fun e _ => .refl e

section Lists

variable {entries middle others : List Entry} (hperm : entries.Perm middle)
  (heffect : middle.Forall₂ SameEffect others)

include hperm heffect

theorem filterMap_clause?_perm :
    (entries.filterMap Entry.clause?).Perm (others.filterMap Entry.clause?) := by
  have heq : middle.filterMap Entry.clause? = others.filterMap Entry.clause? := by
    clear hperm
    induction heffect with
    | nil => rfl
    | cons hef _ ih => rw [List.filterMap_cons, List.filterMap_cons, hef.clause?_eq, ih]
  rw [← heq]
  exact hperm.filterMap Entry.clause?

theorem flatMap_said_perm : (entries.flatMap Entry.said).Perm (others.flatMap Entry.said) := by
  refine (hperm.flatMap_right Entry.said).trans ?_
  clear hperm
  induction heffect with
  | nil => exact .nil
  | cons hef _ ih =>
      rw [List.flatMap_cons, List.flatMap_cons]
      exact hef.said_perm.append ih

theorem countP_isSkipped_eq : entries.countP (!·.isSkipped) = others.countP (!·.isSkipped) := by
  rw [hperm.countP_eq]
  clear hperm
  induction heffect with
  | nil => rfl
  | cons hef _ ih => rw [List.countP_cons, List.countP_cons, hef.isSkipped_eq, ih]

variable (hkept : NoLoss (empty.run (entries.flatMap Entry.history)).diagnostics)

include hkept

theorem noLoss_run_reordered : NoLoss (empty.run (others.flatMap Entry.history)).diagnostics := by
  obtain ⟨hsaid, hkeys⟩ := noLoss_run_iff.1 hkept
  refine noLoss_run_iff.2 ⟨fun d hd => ?_, ?_⟩
  · exact hsaid d ((flatMap_said_perm hperm heffect).mem_iff.2 hd)
  · exact (((filterMap_clause?_perm hperm heffect).map Prod.fst).nodup_iff).1 hkeys

theorem clauses_run_reordered :
    (empty.run (others.flatMap Entry.history)).clauses =
      (empty.run (entries.flatMap Entry.history)).clauses := by
  have hothers := clauses_run_perm_of_noLoss (noLoss_run_reordered hperm heffect hkept)
  have hentries := clauses_run_perm_of_noLoss hkept
  have hclauses := filterMap_clause?_perm hperm heffect
  apply KeyMap.eq_of_entries_eq
  -- both lists ascend, so they are equal if they have the same members
  exact eq_of_mem_iff (KeyMap.ascending _) (KeyMap.ascending _) fun c =>
    ((hothers.trans hclauses.symm).trans hentries.symm).mem_iff

theorem diagnostics_run_reordered :
    (empty.run (others.flatMap Entry.history)).diagnostics.Perm
      (empty.run (entries.flatMap Entry.history)).diagnostics := by
  rw [diagnostics_run_of_noLoss (noLoss_run_reordered hperm heffect hkept),
    diagnostics_run_of_noLoss hkept]
  exact (flatMap_said_perm hperm heffect).symm

end Lists

end Entry

/-- An entry for list elements with the same matches in another order. -/
structure ElemMatch.Reordered (e f : ElemMatch) : Prop where
  key_eq : e.key = f.key
  value_perm : e.value.Perm f.value

namespace ElemMatch

variable {e f : ElemMatch} (h : e.Reordered f)

include h

theorem Reordered.clauses_nested (hkept : NoLoss e.nested.diagnostics) :
    f.nested.clauses = e.nested.clauses := by
  rw [nested_eq_run] at hkept
  rw [nested_eq_run, nested_eq_run]
  exact Entry.clauses_run_reordered (h.value_perm.map Entry.equality)
    (Entry.forall₂_sameEffect_self _) hkept

theorem Reordered.diagnostics_nested (hkept : NoLoss e.nested.diagnostics) :
    f.nested.diagnostics.Perm e.nested.diagnostics := by
  rw [nested_eq_run] at hkept
  rw [nested_eq_run, nested_eq_run]
  exact Entry.diagnostics_run_reordered (h.value_perm.map Entry.equality)
    (Entry.forall₂_sameEffect_self _) hkept

end ElemMatch

/-- The same entry, or an entry for list elements with its matches in another order. -/
inductive Entry.Reordered : Entry → Entry → Prop where
  | refl (e : Entry) : Reordered e e
  | element {e f : ElemMatch} (h : e.Reordered f) : Reordered (.element e) (.element f)

namespace Entry

/-- If no clause is lost among its matches, their order does not change the effect of an entry. -/
theorem Reordered.sameEffect {e f : Entry} (h : e.Reordered f) (hkept : NoLoss e.said) :
    e.SameEffect f := by
  cases h with
  | refl => exact .refl e
  | @element e f h =>
      have hsame : f.isSkipped = e.isSkipped := by
        rw [ElemMatch.isSkipped, ElemMatch.isSkipped, h.key_eq]
      cases hskipped : e.isSkipped with
      | true =>
          have hskipped' : f.isSkipped = true := hsame.trans hskipped
          have he : (Entry.element e).history = [.report .element e.key .blankKey] :=
            history_of_isBlank_key hskipped
          have hf : (Entry.element f).history = [.report .element e.key .blankKey] := by
            rw [h.key_eq]
            exact history_of_isBlank_key hskipped'
          refine ⟨?_, hsame.symm, ?_⟩
          · rw [clause?_of_isSkipped (e := .element e) hskipped,
              clause?_of_isSkipped (e := .element f) hskipped']
          · rw [said, said, he, hf]
      | false =>
          have hskipped' : f.isSkipped = false := hsame.trans hskipped
          have hnested : NoLoss e.nested.diagnostics := by
            rw [ElemMatch.said_eq hskipped, ElemMatch.ownReports, noLoss_append] at hkept
            exact noLoss_rehomed.1 hkept.1
          have hdocument : f.document = e.document := by
            rw [ElemMatch.document, ElemMatch.document, h.clauses_nested hnested]
          refine ⟨?_, hsame.symm, ?_⟩
          · rw [ElemMatch.clause?_eq hskipped, ElemMatch.clause?_eq hskipped', h.key_eq, hdocument]
          · rw [ElemMatch.said_eq hskipped, ElemMatch.said_eq hskipped', ElemMatch.ownReports,
              ElemMatch.ownReports, h.key_eq, hdocument]
            exact ((h.diagnostics_nested hnested).symm.map _).append_right _

theorem forall₂_sameEffect {entries others : List Entry} (h : entries.Forall₂ Reordered others)
    (hkept : NoLoss (entries.flatMap Entry.said)) : entries.Forall₂ SameEffect others := by
  induction h with
  | nil => exact .nil
  | cons hef _ ih =>
      rw [List.flatMap_cons, noLoss_append] at hkept
      exact .cons (hef.sameEffect hkept.1) (ih hkept.2)

end Entry

/-- The request has the entries of the other one in another order, list by list, and in its entries for
list elements the matches in another order. -/
structure Request.Reordered (r q : Request) : Prop where
  equalities : r.query.equalities.Perm q.query.equalities
  substrings : r.query.substrings.Perm q.query.substrings
  elements : ∃ middle, r.query.elements.Perm middle ∧
    middle.Forall₂ ElemMatch.Reordered q.query.elements
  ranges : r.filter.ranges.Perm q.filter.ranges
  anyOf : r.filter.anyOf.Perm q.filter.anyOf
  noneOf : r.filter.noneOf.Perm q.filter.noneOf
  allOf : r.filter.allOf.Perm q.filter.allOf

namespace Request

omit [RegexLibrary] in
/-- The entries for list elements stand between entries that do not depend on them. -/
theorem exists_entries_withElements (r : Request) : ∃ front back : List Entry, ∀ elements,
    (r.withElements elements).entries = front ++ elements.map .element ++ back := by
  refine ⟨r.query.equalities.map .equality ++ r.query.substrings.map .substring,
    r.filter.ranges.map .range ++ r.filter.anyOf.map (.membership .anyOf)
      ++ r.filter.noneOf.map (.membership .noneOf) ++ r.filter.allOf.map (.membership .allOf),
    fun elements => ?_⟩
  simp only [entries_eq, withElements, List.append_assoc]

variable {r q : Request}

omit [RegexLibrary] in
theorem Reordered.exists_entries (h : r.Reordered q) :
    ∃ middle, r.entries.Perm middle ∧ middle.Forall₂ Entry.Reordered q.entries := by
  obtain ⟨elements, hperm, hsame⟩ := h.elements
  -- the lists first, with the matches left where they are, and then the matches
  refine ⟨(q.withElements elements).entries, ?_, ?_⟩
  · rw [entries_eq, entries_eq]
    have hquery := ((h.equalities.map Entry.equality).append (h.substrings.map Entry.substring)).append
      (hperm.map Entry.element)
    have hrange := hquery.append (h.ranges.map Entry.range)
    have hanyOf := hrange.append (h.anyOf.map (Entry.membership .anyOf))
    have hnoneOf := hanyOf.append (h.noneOf.map (Entry.membership .noneOf))
    exact hnoneOf.append (h.allOf.map (Entry.membership .allOf))
  · obtain ⟨front, back, hentries⟩ := q.exists_entries_withElements
    have hself : ∀ entries : List Entry, entries.Forall₂ Entry.Reordered entries := fun entries =>
      List.forall₂_same.2 fun e _ => .refl e
    have helements : (elements.map Entry.element).Forall₂ Entry.Reordered
        (q.query.elements.map Entry.element) := by
      rw [List.forall₂_map_left_iff, List.forall₂_map_right_iff]
      exact hsame.imp fun _ _ hef => .element hef
    have hq : q.entries = front ++ q.query.elements.map .element ++ back := hentries _
    rw [hentries, hq]
    exact List.rel_append (List.rel_append (hself front) helements) (hself back)

end Request

/-- **Without losses the order does not matter.** If compilation loses no clause, neither at the top
nor inside an entry for list elements, then a request with the same entries and matches in another
order is compiled to the same clauses with the same count, loses no clause either, and has the same
diagnostics in some order. -/
theorem compile_reordered {r q : Request} (h : r.Reordered q) {c : Compiled}
    (hc : r.compile false = .ok c) (hkept : ∀ d ∈ c.diagnostics, d.isOverwritten = false) :
    ∃ c', q.compile false = .ok c' ∧ c'.clauses = c.clauses ∧ c'.parsed = c.parsed ∧
      (∀ d ∈ c'.diagnostics, d.isOverwritten = false) ∧ c'.diagnostics.Perm c.diagnostics := by
  obtain ⟨middle, hperm, hsame⟩ := h.exists_entries
  rw [r.eq_of_compile_eq_ok hc] at hkept ⊢
  have hloss : NoLoss (empty.run (r.entries.flatMap Entry.history)).diagnostics := by
    rw [← r.draft_eq_run]
    exact hkept
  -- a loss inside an entry for list elements is handed to the request, so there is none inside either
  have heffect : middle.Forall₂ Entry.SameEffect q.entries := by
    refine Entry.forall₂_sameEffect hsame fun d hd => ?_
    exact (Entry.noLoss_run_iff.1 hloss).1 d ((hperm.flatMap_right Entry.said).mem_iff.2 hd)
  refine ⟨q.draft.compiled, q.compile_false, ?_, ?_, ?_, ?_⟩
  · rw [Draft.compiled, Draft.compiled, q.draft_eq_run, r.draft_eq_run]
    exact Entry.clauses_run_reordered hperm heffect hloss
  · rw [Draft.compiled, Draft.compiled, q.parsed_draft_eq_countP, r.parsed_draft_eq_countP]
    exact (Entry.countP_isSkipped_eq hperm heffect).symm
  · rw [Draft.compiled, q.draft_eq_run]
    exact Entry.noLoss_run_reordered hperm heffect hloss
  · rw [Draft.compiled, Draft.compiled, q.draft_eq_run, r.draft_eq_run]
    exact Entry.diagnostics_run_reordered hperm heffect hloss

end Library

/-- Two entries in a list, one of them with two matches, and an entry that is skipped. -/
def orderRequest : Request where
  query :=
    { equalities := [⟨"status", .string "open"⟩, ⟨" ", .bool true⟩]
      elements := [⟨"items", [⟨"sku", .string "X1"⟩, ⟨"qty", .null⟩]⟩, ⟨"tags", []⟩] }
  filter := { anyOf := [⟨"kind", some [.string "a", .null]⟩] }

/-- The same entries and matches, each list backwards. -/
def backwardsRequest : Request where
  query :=
    { equalities := [⟨" ", .bool true⟩, ⟨"status", .string "open"⟩]
      elements := [⟨"tags", []⟩, ⟨"items", [⟨"qty", .null⟩, ⟨"sku", .string "X1"⟩]⟩] }
  filter := { anyOf := [⟨"kind", some [.string "a", .null]⟩] }

theorem compile_reordered_backwardsRequest :
    orderRequest.Reordered backwardsRequest ∧
      ∃ c c', orderRequest.compile false = .ok c ∧
        (∀ d ∈ c.diagnostics, d.isOverwritten = false) ∧
        backwardsRequest.compile false = .ok c' ∧ c'.clauses = c.clauses ∧
        c'.diagnostics.Perm c.diagnostics := by
  have hreordered : orderRequest.Reordered backwardsRequest :=
    { equalities := .swap _ _ _
      substrings := .refl _
      elements := ⟨_, .swap _ _ _, .cons ⟨rfl, .refl _⟩ (.cons ⟨rfl, .swap _ _ _⟩ .nil)⟩
      ranges := .refl _
      anyOf := .refl _
      noneOf := .refl _
      allOf := .refl _ }
  have hkept : ∀ d ∈ orderRequest.draft.compiled.diagnostics, d.isOverwritten = false := by
    decide +kernel
  obtain ⟨c', hc', hclauses, -, -, hdiagnostics⟩ := compile_reordered hreordered rfl hkept
  exact ⟨hreordered, _, c', rfl, hkept, hc', hclauses, hdiagnostics⟩

end FilterQuery
