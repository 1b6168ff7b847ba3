import FilterQuery.Regex.Search

/-!
# What a search finds

A search goes through a text with whole sets of places. Here is what it finds said of single places:
`Matches` says for each expression from which place a match leads to which, and a text has a match if
one leads from some place of it to another (`matchesIn_iff`).

A place of a text is known by its index, so comparing places by their indices loses none. A match never
leads back, so a repetition that is taken more often than there are characters left stands still at some
turn. That is why `spread` finds all places in as many rounds as `reach` gives it.
-/

namespace FilterQuery.Regex

namespace Place

/-- The place with some characters before it and some behind it. -/
def between (before rest : List Char) : Place := ⟨before.length, before.getLast?, rest⟩

def LiesIn (cs : List Char) (p : Place) : Prop :=
  ∃ before rest, before ++ rest = cs ∧ p = between before rest

theorem eq_of_index_eq {cs : List Char} {p q : Place} (hp : p.LiesIn cs) (hq : q.LiesIn cs)
    (h : p.index = q.index) : p = q := by
  obtain ⟨before, rest, hcs, rfl⟩ := hp
  obtain ⟨before', rest', hcs', rfl⟩ := hq
  obtain ⟨rfl, rfl⟩ := List.append_inj (hcs.trans hcs'.symm) h
  rfl

theorem index_add_length {cs : List Char} {p : Place} (hp : p.LiesIn cs) :
    p.index + p.rest.length = cs.length := by
  obtain ⟨before, rest, rfl, rfl⟩ := hp
  exact List.length_append.symm

theorem advance?_eq_some_iff {p q : Place} {accepts : Char → Bool} :
    p.advance? accepts = some q ↔
      ∃ c rest, p.rest = c :: rest ∧ accepts c = true ∧ q = ⟨p.index + 1, some c, rest⟩ := by
  rw [advance?]
  cases p.rest with
  | nil => simp
  | cons c rest => grind

theorem index_of_advance? {p q : Place} {accepts : Char → Bool} (h : p.advance? accepts = some q) :
    q.index = p.index + 1 := by
  obtain ⟨c, rest, -, -, rfl⟩ := advance?_eq_some_iff.1 h
  rfl

theorem between_concat (before : List Char) (c : Char) (rest : List Char) :
    between (before ++ [c]) rest = ⟨before.length + 1, some c, rest⟩ := by
  rw [between, List.getLast?_concat, List.length_append, List.length_singleton]

theorem advance?_between_iff (before : List Char) {rest : List Char} {q : Place}
    {accepts : Char → Bool} :
    (between before rest).advance? accepts = some q ↔
      ∃ c after, rest = c :: after ∧ accepts c = true ∧ q = between (before ++ [c]) after := by
  simp only [advance?_eq_some_iff, between_concat]
  exact Iff.rfl

theorem liesIn_of_advance? {cs : List Char} {p q : Place} {accepts : Char → Bool}
    (hp : p.LiesIn cs) (h : p.advance? accepts = some q) : q.LiesIn cs := by
  obtain ⟨before, rest, rfl, rfl⟩ := hp
  obtain ⟨c, after, rfl, -, rfl⟩ := (advance?_between_iff before).1 h
  exact ⟨before ++ [c], after, by simp, rfl⟩

theorem mem_onwards_iff (before : List Char) {cs : List Char} {p : Place} :
    p ∈ onwards before.length before.getLast? cs ↔
      ∃ part rest, part ++ rest = cs ∧ p = between (before ++ part) rest := by
  induction cs generalizing before with
  | nil =>
      rw [onwards, List.mem_singleton]
      constructor
      · rintro rfl
        exact ⟨[], [], rfl, by rw [List.append_nil]; rfl⟩
      · rintro ⟨part, rest, hcs, rfl⟩
        obtain ⟨rfl, rfl⟩ := List.append_eq_nil_iff.1 hcs
        rw [List.append_nil]
        rfl
  | cons c cs ih =>
      have hnext : onwards (before.length + 1) (some c) cs =
          onwards (before ++ [c]).length (before ++ [c]).getLast? cs := by
        rw [List.getLast?_concat, List.length_append, List.length_singleton]
      rw [onwards, List.mem_cons, hnext, ih]
      constructor
      · rintro (rfl | ⟨part, rest, rfl, rfl⟩)
        · exact ⟨[], c :: cs, rfl, by rw [List.append_nil]; rfl⟩
        · exact ⟨c :: part, rest, rfl, by rw [List.append_assoc]; rfl⟩
      · rintro ⟨part, rest, hcs, rfl⟩
        cases part with
        | nil =>
            cases hcs
            exact .inl (by rw [List.append_nil]; rfl)
        | cons c' part =>
            cases hcs
            exact .inr ⟨part, rest, rfl, by rw [List.append_assoc]; rfl⟩

theorem mem_all_iff {text : String} {p : Place} : p ∈ all text ↔ p.LiesIn text.toList := by
  have h : p ∈ onwards 0 none text.toList ↔ _ := mem_onwards_iff []
  exact h

/-- A set of places of a text, as a search keeps it. -/
structure InOrder (cs : List Char) (ps : List Place) : Prop where
  liesIn : ∀ p ∈ ps, p.LiesIn cs
  ascending : ps.Pairwise (·.index < ·.index)

theorem InOrder.tail {cs : List Char} {p : Place} {ps : List Place} (h : InOrder cs (p :: ps)) :
    InOrder cs ps :=
  ⟨fun q hq => h.liesIn q (.tail p hq), h.ascending.of_cons⟩

theorem InOrder.lt_of_mem {cs : List Char} {p q : Place} {ps : List Place}
    (h : InOrder cs (p :: ps)) (hq : q ∈ ps) : p.index < q.index :=
  List.rel_of_pairwise_cons h.ascending hq

theorem InOrder.cons {cs : List Char} {p : Place} {ps : List Place} (hp : p.LiesIn cs)
    (hps : InOrder cs ps) (hlt : ∀ q ∈ ps, p.index < q.index) : InOrder cs (p :: ps) :=
  ⟨List.forall_mem_cons.2 ⟨hp, hps.liesIn⟩, List.pairwise_cons.2 ⟨hlt, hps.ascending⟩⟩

theorem InOrder.filter {cs : List Char} {ps : List Place} (h : InOrder cs ps) (kept : Place → Bool) :
    InOrder cs (ps.filter kept) :=
  ⟨fun p hp => h.liesIn p (List.mem_filter.1 hp).1, h.ascending.filter kept⟩

theorem ascending_onwards (index : Nat) (before : Option Char) (cs : List Char) :
    (onwards index before cs).Pairwise (·.index < ·.index) ∧
      ∀ p ∈ onwards index before cs, index ≤ p.index := by
  induction cs generalizing index before with
  | nil => simp [onwards]
  | cons c cs ih =>
      obtain ⟨hascending, hle⟩ := ih (index + 1) (some c)
      refine ⟨List.pairwise_cons.2 ⟨hle, hascending⟩, fun p hp => ?_⟩
      rcases List.mem_cons.1 hp with rfl | hp
      · exact Nat.le_refl _
      · exact Nat.le_of_succ_le (hle p hp)

theorem inOrder_all (text : String) : InOrder text.toList (all text) :=
  ⟨fun _ => mem_all_iff.1, (ascending_onwards 0 none text.toList).1⟩

end Place

open Regex.Place (LiesIn InOrder)

/-- Taking a relation so many times. -/
def Times (rel : Place → Place → Prop) : Nat → Place → Place → Prop
  | 0, p, q => q = p
  | n + 1, p, q => ∃ r, rel p r ∧ Times rel n r q

mutual

/-- Whether a match of an expression may lead from one place to another. -/
def Expr.Matches : Expr → Place → Place → Prop
  | .empty, p, q => q = p
  | .one accepts _, p, q => p.advance? accepts = some q
  | .look kind, p, q => kind.holds p = true ∧ q = p
  | .concat parts, p, q => MatchesAll parts p q
  | .alternation branches, p, q => MatchesAny branches p q
  | .repetition least most body, p, q =>
    ∃ r, Times body.Matches least p r ∧
      ∃ n, (∀ m, most = some m → n ≤ m - least) ∧ Times body.Matches n r q

def MatchesAll : List Expr → Place → Place → Prop
  | [], p, q => q = p
  | e :: es, p, q => ∃ r, e.Matches p r ∧ MatchesAll es r q

def MatchesAny : List Expr → Place → Place → Prop
  | [], _, _ => False
  | e :: es, p, q => e.Matches p q ∨ MatchesAny es p q

end

section Sets

variable {cs : List Char} {ps qs : List Place} {p : Place}

theorem mem_merge_iff (hps : InOrder cs ps) (hqs : InOrder cs qs) :
    p ∈ merge ps qs ↔ p ∈ ps ∨ p ∈ qs := by
  fun_induction merge ps qs with
  | case1 qs => simp
  | case2 ps => simp
  | case3 p' ps q' qs hlt ih => rw [List.mem_cons, ih hps.tail hqs, ← or_assoc, ← List.mem_cons]
  | case4 p' ps q' qs hle hlt ih =>
      rw [List.mem_cons, ih hps hqs.tail, or_left_comm, ← List.mem_cons]
  | case5 p' ps q' qs hle hge ih =>
      have hsame : p' = q' := by
        refine Place.eq_of_index_eq (hps.liesIn p' (.head _)) (hqs.liesIn q' (.head _)) ?_
        omega
      rw [List.mem_cons, ih hps.tail hqs.tail, List.mem_cons, List.mem_cons, ← hsame]
      grind

theorem inOrder_merge (hps : InOrder cs ps) (hqs : InOrder cs qs) : InOrder cs (merge ps qs) := by
  fun_induction merge ps qs with
  | case1 qs => exact hqs
  | case2 ps => exact hps
  | case3 p' ps q' qs hlt ih =>
      refine .cons (hps.liesIn p' (.head _)) (ih hps.tail hqs) fun p hp => ?_
      rcases (mem_merge_iff hps.tail hqs).1 hp with hp | hp
      · exact hps.lt_of_mem hp
      · rcases List.mem_cons.1 hp with rfl | hp
        · exact hlt
        · exact Nat.lt_trans hlt (hqs.lt_of_mem hp)
  | case4 p' ps q' qs hle hlt ih =>
      refine .cons (hqs.liesIn q' (.head _)) (ih hps hqs.tail) fun p hp => ?_
      rcases (mem_merge_iff hps hqs.tail).1 hp with hp | hp
      · rcases List.mem_cons.1 hp with rfl | hp
        · exact hlt
        · exact Nat.lt_trans hlt (hps.lt_of_mem hp)
      · exact hqs.lt_of_mem hp
  | case5 p' ps q' qs hle hge ih =>
      refine .cons (hps.liesIn p' (.head _)) (ih hps.tail hqs.tail) fun p hp => ?_
      rcases (mem_merge_iff hps.tail hqs.tail).1 hp with hp | hp
      · exact hps.lt_of_mem hp
      · exact Nat.lt_of_le_of_lt (Nat.not_lt.1 hge) (hqs.lt_of_mem hp)

theorem mem_without_iff (hps : InOrder cs ps) (hqs : InOrder cs qs) :
    p ∈ without ps qs ↔ p ∈ ps ∧ p ∉ qs := by
  rw [without, List.mem_filter]
  refine and_congr_right fun hp => ?_
  simp only [Bool.not_eq_true', List.any_eq_false, beq_iff_eq]
  constructor
  · intro h hmem
    exact h p hmem rfl
  · intro h q hq hindex
    rw [Place.eq_of_index_eq (hqs.liesIn q hq) (hps.liesIn p hp) hindex] at hq
    exact h hq

/-- From no place of a set is there more ahead than `reach` says. -/
theorem length_rest_lt_reach (h : InOrder cs ps) (hp : p ∈ ps) : p.rest.length < reach ps := by
  cases ps with
  | nil => cases hp
  | cons first ps =>
      have hfirst := Place.index_add_length (h.liesIn first (.head _))
      have hlength := Place.index_add_length (h.liesIn p hp)
      rw [reach]
      rcases List.mem_cons.1 hp with rfl | hp
      · exact Nat.lt_succ_self _
      · have hlt := h.lt_of_mem hp
        omega

end Sets

section Steps

variable {cs : List Char} {step : List Place → List Place} {rel : Place → Place → Prop}

/-- A step leads from a set of places to all places where a relation leads from one of them, and the
relation never leads back. -/
structure Computes (cs : List Char) (step : List Place → List Place) (rel : Place → Place → Prop) :
    Prop where
  onward : ∀ {p q}, p.LiesIn cs → rel p q → q.LiesIn cs ∧ p.index ≤ q.index
  inOrder : ∀ {ps}, InOrder cs ps → InOrder cs (step ps)
  mem_iff : ∀ {ps q}, InOrder cs ps → (q ∈ step ps ↔ ∃ p ∈ ps, rel p q)

theorem Computes.times_onward (h : Computes cs step rel) {n : Nat} {p q : Place} (hp : p.LiesIn cs)
    (htimes : Times rel n p q) : q.LiesIn cs ∧ p.index ≤ q.index := by
  induction n generalizing p with
  | zero =>
      cases htimes
      exact ⟨hp, Nat.le_refl _⟩
  | succ n ih =>
      obtain ⟨r, hrel, hrest⟩ := htimes
      obtain ⟨hr, hle⟩ := h.onward hp hrel
      obtain ⟨hq, hle'⟩ := ih hr hrest
      exact ⟨hq, Nat.le_trans hle hle'⟩

/-- Turns at which a relation stands still can be left out, and there are no more others than
characters. -/
theorem Computes.exists_times_le (h : Computes cs step rel) {n : Nat} {p q : Place}
    (hp : p.LiesIn cs) (htimes : Times rel n p q) :
    ∃ m, m ≤ n ∧ p.index + m ≤ q.index ∧ Times rel m p q := by
  induction n generalizing p with
  | zero =>
      cases htimes
      exact ⟨0, Nat.le_refl _, Nat.le_refl _, rfl⟩
  | succ n ih =>
      obtain ⟨r, hrel, hrest⟩ := htimes
      obtain ⟨hr, hle⟩ := h.onward hp hrel
      obtain ⟨m, hm, hindex, hshort⟩ := ih hr hrest
      by_cases hsame : p.index = r.index
      · -- the same index is the same place, so this turn is left out
        rw [← Place.eq_of_index_eq hp hr hsame] at hshort hindex
        exact ⟨m, Nat.le_succ_of_le hm, hindex, hshort⟩
      · exact ⟨m + 1, Nat.succ_le_succ hm, by omega, r, hrel, hshort⟩

theorem Computes.iterate (h : Computes cs step rel) (n : Nat) :
    Computes cs (iterate step n) (Times rel n) where
  onward := h.times_onward
  inOrder {ps} hps := by
    induction n generalizing ps with
    | zero => exact hps
    | succ n ih =>
        rw [Regex.iterate]
        split
        · exact hps
        · exact ih (h.inOrder hps)
  mem_iff {ps q} hps := by
    induction n generalizing ps with
    | zero => simp [Regex.iterate, Times]
    | succ n ih =>
        rw [Regex.iterate]
        split
        · next hempty => simp [List.isEmpty_iff.1 hempty]
        · rw [ih (h.inOrder hps)]
          constructor
          · rintro ⟨r, hr, hrest⟩
            obtain ⟨p, hp, hrel⟩ := (h.mem_iff hps).1 hr
            exact ⟨p, hp, r, hrel, hrest⟩
          · rintro ⟨p, hp, r, hrel, hrest⟩
            exact ⟨r, (h.mem_iff hps).2 ⟨p, hp, hrel⟩, hrest⟩

theorem Computes.inOrder_spread (h : Computes cs step rel) {fuel : Nat} {frontier seen : List Place}
    (hfrontier : InOrder cs frontier) (hseen : InOrder cs seen) :
    InOrder cs (spread step fuel frontier seen) := by
  induction fuel generalizing frontier seen with
  | zero => exact hseen
  | succ fuel ih =>
      rw [spread]
      have hfresh : InOrder cs (without (step frontier) seen) := (h.inOrder hfrontier).filter _
      split
      · exact hseen
      · next fresh hne => exact ih hfresh (inOrder_merge hseen hfresh)

/-- What a relation leads to from a closed set is in the set. -/
theorem mem_of_times {seen : List Place} (hclosed : ∀ p ∈ seen, ∀ q, rel p q → q ∈ seen) {n : Nat}
    {p q : Place} (hp : p ∈ seen) (htimes : Times rel n p q) : q ∈ seen := by
  induction n generalizing p with
  | zero =>
      cases htimes
      exact hp
  | succ n ih =>
      obtain ⟨r, hrel, hrest⟩ := htimes
      exact ih (hclosed p hp r hrel) hrest

/-- What `spread` gathers. The frontier holds all places seen from which a step might lead anywhere
new. -/
theorem Computes.mem_spread_iff (h : Computes cs step rel) {fuel : Nat} {frontier seen : List Place}
    {q : Place} (hfrontier : InOrder cs frontier) (hseen : InOrder cs seen)
    (hsub : ∀ p ∈ frontier, p ∈ seen)
    (hdone : ∀ p ∈ seen, p ∉ frontier → ∀ q, rel p q → q ∈ seen) :
    q ∈ spread step fuel frontier seen ↔ ∃ p ∈ seen, ∃ n ≤ fuel, Times rel n p q := by
  induction fuel generalizing frontier seen with
  | zero => simp [spread, Times]
  | succ fuel ih =>
      have hstep := h.inOrder hfrontier
      have hfresh : InOrder cs (without (step frontier) seen) := hstep.filter _
      have hmem : ∀ {p}, p ∈ without (step frontier) seen ↔ p ∈ step frontier ∧ p ∉ seen :=
        mem_without_iff hstep hseen
      -- what is behind the frontier leads nowhere new, and the frontier only to what is fresh
      have hnext : ∀ p ∈ seen, ∀ q, rel p q → q ∈ seen ∨ q ∈ without (step frontier) seen := by
        intro p hp q hrel
        by_cases hpf : p ∈ frontier
        · by_cases hq : q ∈ seen
          · exact .inl hq
          · exact .inr (hmem.2 ⟨(h.mem_iff hfrontier).2 ⟨p, hpf, hrel⟩, hq⟩)
        · exact .inl (hdone p hp hpf q hrel)
      rw [spread]
      split
      · next hnone =>
          have hclosed : ∀ p ∈ seen, ∀ q, rel p q → q ∈ seen := by
            intro p hp q hrel
            rw [hnone] at hnext
            exact (hnext p hp q hrel).resolve_right List.not_mem_nil
          constructor
          · intro hq
            exact ⟨q, hq, 0, Nat.zero_le _, rfl⟩
          · rintro ⟨p, hp, n, -, htimes⟩
            exact mem_of_times hclosed hp htimes
      · next fresh hne =>
          have hmerge : ∀ {p}, p ∈ merge seen (without (step frontier) seen) ↔
              p ∈ seen ∨ p ∈ without (step frontier) seen := mem_merge_iff hseen hfresh
          rw [ih hfresh (inOrder_merge hseen hfresh) (fun p hp => hmerge.2 (.inr hp))]
          · constructor
            · rintro ⟨p, hp, n, hn, htimes⟩
              rcases hmerge.1 hp with hp | hp
              · exact ⟨p, hp, n, Nat.le_succ_of_le hn, htimes⟩
              · obtain ⟨r, hr, hrel⟩ := (h.mem_iff hfrontier).1 (hmem.1 hp).1
                exact ⟨r, hsub r hr, n + 1, Nat.succ_le_succ hn, p, hrel, htimes⟩
            · rintro ⟨p, hp, n, hn, htimes⟩
              cases n with
              | zero => exact ⟨p, hmerge.2 (.inl hp), 0, Nat.zero_le _, htimes⟩
              | succ n =>
                  obtain ⟨r, hrel, hrest⟩ := htimes
                  exact ⟨r, hmerge.2 (hnext p hp r hrel), n, Nat.le_of_succ_le_succ hn, hrest⟩
          · intro p hp hpf q hrel
            have hpseen := (hmerge.1 hp).resolve_right hpf
            exact hmerge.2 (hnext p hpseen q hrel)

/-- All places that a relation leads to in the turns that are left when `least` have been taken. -/
theorem Computes.spread (h : Computes cs step rel) (least : Nat) (most : Option Nat) :
    Computes cs
      (fun ps => Regex.spread step
        (match most with
          | none => reach ps
          | some most => min (most - least) (reach ps)) ps ps)
      fun p q => ∃ n, (∀ m, most = some m → n ≤ m - least) ∧ Times rel n p q where
  onward hp := fun ⟨_, _, htimes⟩ => h.times_onward hp htimes
  inOrder hps := h.inOrder_spread hps hps
  mem_iff {ps q} hps := by
    rw [h.mem_spread_iff hps hps (fun _ hp => hp) fun p hp hpf => absurd hp hpf]
    refine exists_congr fun p => and_congr_right fun hp => ?_
    constructor
    · rintro ⟨n, hn, htimes⟩
      refine ⟨n, ?_, htimes⟩
      rintro m rfl
      exact Nat.le_trans hn (Nat.min_le_left _ _)
    · rintro ⟨n, hn, htimes⟩
      obtain ⟨k, hk, hindex, hshort⟩ := h.exists_times_le (hps.liesIn p hp) htimes
      have hq := Place.index_add_length (h.times_onward (hps.liesIn p hp) htimes).1
      have hlength := Place.index_add_length (hps.liesIn p hp)
      have hreach := length_rest_lt_reach hps hp
      have hle : k ≤ reach ps := by omega
      refine ⟨k, ?_, hshort⟩
      cases most with
      | none => exact hle
      | some m => exact Nat.le_min.2 ⟨Nat.le_trans hk (hn m rfl), hle⟩

theorem Computes.comp {step' : List Place → List Place} {rel' : Place → Place → Prop}
    (h : Computes cs step rel) (h' : Computes cs step' rel') :
    Computes cs (fun ps => step' (step ps)) fun p q => ∃ r, rel p r ∧ rel' r q where
  onward hp := by
    rintro ⟨r, hrel, hrel'⟩
    obtain ⟨hr, hle⟩ := h.onward hp hrel
    obtain ⟨hq, hle'⟩ := h'.onward hr hrel'
    exact ⟨hq, Nat.le_trans hle hle'⟩
  inOrder hps := h'.inOrder (h.inOrder hps)
  mem_iff hps := by
    rw [h'.mem_iff (h.inOrder hps)]
    constructor
    · rintro ⟨r, hr, hrel'⟩
      obtain ⟨p, hp, hrel⟩ := (h.mem_iff hps).1 hr
      exact ⟨p, hp, r, hrel, hrel'⟩
    · rintro ⟨p, hp, r, hrel, hrel'⟩
      exact ⟨r, (h.mem_iff hps).2 ⟨p, hp, hrel⟩, hrel'⟩

theorem Computes.merge {step' : List Place → List Place} {rel' : Place → Place → Prop}
    (h : Computes cs step rel) (h' : Computes cs step' rel') :
    Computes cs (fun ps => merge (step ps) (step' ps)) fun p q => rel p q ∨ rel' p q where
  onward hp hrel := hrel.elim (h.onward hp) (h'.onward hp)
  inOrder hps := inOrder_merge (h.inOrder hps) (h'.inOrder hps)
  mem_iff hps := by
    rw [mem_merge_iff (h.inOrder hps) (h'.inOrder hps), h.mem_iff hps, h'.mem_iff hps]
    simp only [and_or_left, exists_or]

theorem computes_self : Computes cs (fun ps => ps) fun p q => q = p where
  onward hp := by
    rintro rfl
    exact ⟨hp, Nat.le_refl _⟩
  inOrder hps := hps
  mem_iff _ := by simp

theorem computes_none : Computes cs (fun _ => []) fun _ _ => False where
  onward _ := False.elim
  inOrder _ := ⟨fun _ hp => absurd hp List.not_mem_nil, .nil⟩
  mem_iff _ := by simp

theorem computes_filter (kept : Place → Bool) :
    Computes cs (fun ps => ps.filter kept) fun p q => kept p = true ∧ q = p where
  onward hp := by
    rintro ⟨-, rfl⟩
    exact ⟨hp, Nat.le_refl _⟩
  inOrder hps := hps.filter kept
  mem_iff {ps q} _ := by
    rw [List.mem_filter]
    constructor
    · rintro ⟨hq, hkept⟩
      exact ⟨q, hq, hkept, rfl⟩
    · rintro ⟨p, hp, hkept, rfl⟩
      exact ⟨hp, hkept⟩

theorem computes_advance (accepts : Char → Bool) :
    Computes cs (fun ps => ps.filterMap (·.advance? accepts)) fun p q => p.advance? accepts = some q where
  onward hp hq := ⟨Place.liesIn_of_advance? hp hq, Nat.le.intro (Place.index_of_advance? hq).symm⟩
  inOrder {ps} hps := by
    refine ⟨fun q hq => ?_, hps.ascending.filterMap _ fun p p' hlt q hq q' hq' => ?_⟩
    · obtain ⟨p, hp, hadvance⟩ := List.mem_filterMap.1 hq
      exact Place.liesIn_of_advance? (hps.liesIn p hp) hadvance
    · rw [Place.index_of_advance? hq, Place.index_of_advance? hq']
      exact Nat.succ_lt_succ hlt
  mem_iff _ := List.mem_filterMap

end Steps

mutual

/-- Running an expression leads from a set of places to where its matches lead. -/
theorem Expr.computes_run (cs : List Char) : (e : Expr) → Computes cs e.run e.Matches
  | .empty => computes_self
  | .one accepts _ => computes_advance accepts
  | .look kind => computes_filter kind.holds
  | .concat parts => computes_runAll cs parts
  | .alternation branches => computes_runAny cs branches
  | .repetition least most body =>
      ((body.computes_run cs).iterate least).comp ((body.computes_run cs).spread least most)

theorem computes_runAll (cs : List Char) :
    (parts : List Expr) → Computes cs (runAll parts) (MatchesAll parts)
  | [] => computes_self
  | e :: es => (e.computes_run cs).comp (computes_runAll cs es)

theorem computes_runAny (cs : List Char) :
    (branches : List Expr) → Computes cs (runAny branches) (MatchesAny branches)
  | [] => computes_none
  | e :: es => (e.computes_run cs).merge (computes_runAny cs es)

end

/-- **A search finds a match if and only if there is one.** -/
theorem Expr.matchesIn_iff (e : Expr) (text : String) :
    e.matchesIn text = true ↔ ∃ p q, p.LiesIn text.toList ∧ e.Matches p q := by
  have hmem {q} := (e.computes_run text.toList).mem_iff (q := q) (Place.inOrder_all text)
  rw [matchesIn, Bool.not_eq_true', List.isEmpty_eq_false_iff_exists_mem, exists_comm]
  refine exists_congr fun q => hmem.trans ?_
  exact exists_congr fun p => and_congr_left fun _ => Place.mem_all_iff

end FilterQuery.Regex
