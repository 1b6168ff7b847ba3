import FilterQuery.Proofs.Pieces
import FilterQuery.Proofs.Search
import FilterQuery.Regex.Engine
import Mathlib.Algebra.GroupWithZero.Nat
import Mathlib.Data.List.Forall2

/-!
# The laws of pieces hold of the engine

The parser takes a plain character for itself and an anchor for an assertion, and a star behind a dot for
a repetition, as no sign follows it that would change its meaning. So a source made of pieces is read to
one part for each of them. A match of that part leads over just the texts which the piece stands for, and
by induction a match of them all leads over what fits them all.

Without regard to case the engine takes a letter for all its variants. Of these no more than two are in
ASCII, which is why in ASCII it is enough to compare small letters.

The size of a pattern is the sum of what its pieces take, and no piece takes more than a bounded number of
bytes. So only a pattern of many pieces can be too big.
-/

namespace FilterQuery

open Text (IsPlain)

namespace Regex

/-- Reads on from some place outside all groups, behind the parts read so far, last first. -/
def readOn (fuel : Nat) (parts : List Tree) (rest : List Char) (pos : Position) : Reading Tree :=
  parseFrom fuel [] ⟨.first, parts⟩ ⟨rest, pos, false, []⟩

theorem readOn_nil (fuel : Nat) (parts : List Tree) (pos : Position) :
    readOn (fuel + 1) parts [] pos = .ok (Sequence.toTree ⟨.first, parts⟩ pos) := rfl

theorem readOn_of_step {fuel : Nat} {parts parts' : List Tree} {c : Char} {rest rest' : List Char}
    {pos pos' : Position}
    (h : step c [] ⟨.first, parts⟩ ⟨c :: rest, pos, false, []⟩ =
      .ok ([], ⟨.first, parts'⟩, ⟨rest', pos', false, []⟩)) :
    readOn (fuel + 1) parts (c :: rest) pos = readOn fuel parts' rest' pos' := by
  have hstep : readOn (fuel + 1) parts (c :: rest) pos =
      (step c [] ⟨.first, parts⟩ ⟨c :: rest, pos, false, []⟩ >>= fun next =>
        parseFrom fuel next.1 next.2.1 next.2.2) := rfl
  rw [hstep, h]
  rfl

theorem step_plain {c : Char} (h : IsPlain c) (stack : List Frame) (s : Sequence) (cur : Cursor) :
    step c stack s cur = .ok (stack,
      { s with parts := .literal { span := cur.charSpan, char := c } :: s.parts }, cur.bump) := by
  unfold IsPlain at h
  -- a character with a meaning of its own is not plain
  unfold step
  split <;> try exact absurd h (by decide)
  unfold readPrimitive
  split <;> try exact absurd h (by decide)
  rfl

/-- A repeated dot, if no sign follows that it is to take little first. -/
theorem readOn_anything {rest : List Char} (hrest : rest.head? ≠ some '?') (fuel : Nat)
    (parts : List Tree) (pos : Position) :
    ∃ span dot pos', readOn (fuel + 2) parts ('.' :: '*' :: rest) pos =
      readOn fuel (.repetition span 0 none (.dot dot) :: parts) rest pos' := by
  have hstar : ∀ (dot : Span) (pos : Position),
      step '*' [] ⟨.first, .dot dot :: parts⟩ ⟨'*' :: rest, pos, false, []⟩ =
        .ok ([], ⟨.first, .repetition ⟨dot.start, pos.after '*'⟩ 0 none (.dot dot) :: parts⟩,
          ⟨rest, pos.after '*', false, []⟩) := by
    intro dot pos
    show Except.ok ([], pushRepetition (.dot dot) ⟨.first, parts⟩ 0 none
      ⟨rest, pos.after '*', false, []⟩) = _
    simp [pushRepetition, Cursor.peek?, hrest, Tree.span]
  exact ⟨_, ⟨pos, pos.after '.'⟩, _, (readOn_of_step rfl).trans (readOn_of_step (hstar _ _))⟩

end Regex

open Regex

/-- Any character, but for the end of a line without the flag for that. -/
def RegexFlags.dot (flags : RegexFlags) : Expr :=
  if flags.dotMatchesNewLine then .one (fun _ => true) (.allBut 0) else .one (· != '\n') (.allBut 1)

namespace Piece

/-- The expression that a piece is read to. -/
def expr (flags : RegexFlags) : Piece → Expr
  | char x _ => .one ((modes flags).fold (· == x)) ((modes flags).letterSize x)
  | start => .look ((modes flags).look .startLine)
  | stop => .look ((modes flags).look .endLine)
  | anything => .repetition 0 none flags.dot

/-- The expression that some pieces are read to. -/
def whole (flags : RegexFlags) : List Piece → Expr
  | [] => .empty
  | [piece] => piece.expr flags
  | pieces => .concat (pieces.map (expr flags))

/-- A tree that a piece may be read to. -/
structure IsReadTo (flags : RegexFlags) (piece : Piece) (tree : Tree) : Prop where
  nesting : ∀ depth ≤ 1, tree.checkNesting depth = .ok ()
  toExpr : tree.toExpr (modes flags) = .ok (piece.expr flags, modes flags)

theorem isReadTo_char (flags : RegexFlags) {x : Char} (plain : IsPlain x) (span : Span) :
    IsReadTo flags (char x plain) (.literal ⟨span, x, false⟩) := ⟨fun _ _ => rfl, rfl⟩

theorem isReadTo_start (flags : RegexFlags) (span : Span) :
    IsReadTo flags start (.assertion span .startLine) := ⟨fun _ _ => rfl, rfl⟩

theorem isReadTo_stop (flags : RegexFlags) (span : Span) :
    IsReadTo flags stop (.assertion span .endLine) := ⟨fun _ _ => rfl, rfl⟩

theorem isReadTo_anything (flags : RegexFlags) (span dot : Span) :
    IsReadTo flags anything (.repetition span 0 none (.dot dot)) := by
  refine ⟨fun depth hdepth => ?_, ?_⟩
  · have henter : enter depth span = .ok () := if_neg (by unfold nestLimit; omega)
    rw [Tree.checkNesting, henter]
    rfl
  · have hdot : (modes flags).dot dot = .ok flags.dot := by
      obtain ⟨_, _, dotMatchesNewLine, _⟩ := flags
      cases dotMatchesNewLine with
      | true => rfl
      | false => rfl
    rw [Tree.toExpr, Tree.toExpr, hdot]
    rfl

theorem head?_flatMap_chars (pieces : List Piece) : (pieces.flatMap chars).head? ≠ some '?' := by
  cases pieces with
  | nil => simp
  | cons piece rest =>
      cases piece with
      | char x plain =>
          rintro ⟨⟩
          exact absurd plain (by unfold IsPlain; decide)
      | _ => simp [chars]

/-- Pieces are read one by one. -/
theorem exists_readOn_eq (flags : RegexFlags) (pieces : List Piece) (fuel : Nat) (parts : List Tree)
    (pos : Regex.Position) :
    ∃ trees pos', pieces.Forall₂ (IsReadTo flags) trees ∧
      readOn (fuel + (pieces.flatMap chars).length) parts (pieces.flatMap chars) pos =
        readOn fuel (trees.reverse ++ parts) [] pos' := by
  induction pieces generalizing parts pos with
  | nil => exact ⟨[], pos, .nil, rfl⟩
  | cons piece rest ih =>
      have hpiece : ∃ tree pos', IsReadTo flags piece tree ∧
          readOn (fuel + ((piece :: rest).flatMap chars).length) parts
              ((piece :: rest).flatMap chars) pos =
            readOn (fuel + (rest.flatMap chars).length) (tree :: parts) (rest.flatMap chars) pos' := by
        cases piece with
        | char x plain =>
            exact ⟨_, _, isReadTo_char flags plain _, readOn_of_step (step_plain plain [] _ _)⟩
        | start => exact ⟨_, _, isReadTo_start flags _, readOn_of_step rfl⟩
        | stop => exact ⟨_, _, isReadTo_stop flags _, readOn_of_step rfl⟩
        | anything =>
            obtain ⟨span, dot, pos', hread⟩ := readOn_anything (head?_flatMap_chars rest)
              (fuel + (rest.flatMap chars).length) parts pos
            exact ⟨_, pos', isReadTo_anything flags span dot, hread⟩
      obtain ⟨tree, pos', htree, hread⟩ := hpiece
      obtain ⟨trees, pos'', htrees, hrest⟩ := ih (tree :: parts) pos'
      refine ⟨tree :: trees, pos'', .cons htree htrees, hread.trans ?_⟩
      rw [hrest, List.reverse_cons, List.append_assoc, List.singleton_append]

section Trees

variable {flags : RegexFlags} {pieces : List Piece} {trees : List Tree}
  (h : pieces.Forall₂ (IsReadTo flags) trees)

include h

theorem checkNestingParts_eq : checkNestingParts 1 trees = .ok () := by
  induction h with
  | nil => rfl
  | cons htree _ ih =>
      rw [checkNestingParts, htree.nesting 1 (Nat.le_refl 1)]
      exact ih

theorem toExprs_eq (done : List Expr) :
    toExprs (modes flags) done trees =
      .ok (done.reverse ++ pieces.map (expr flags), modes flags) := by
  induction h generalizing done with
  | nil => rw [toExprs, List.map_nil, List.append_nil]
  | cons htree _ ih =>
      rw [toExprs, htree.toExpr]
      refine (ih _).trans ?_
      rw [List.reverse_cons, List.append_assoc, List.map_cons, List.singleton_append]

/-- The parts of a sequence stand for what the pieces are read to as a whole. -/
theorem toTree_isReadTo (first stop : Regex.Position) :
    (Sequence.toTree ⟨first, trees.reverse⟩ stop).checkNesting 0 = .ok () ∧
      (Sequence.toTree ⟨first, trees.reverse⟩ stop).toExpr (modes flags) =
        .ok (whole flags pieces, modes flags) := by
  cases h with
  | nil => exact ⟨rfl, rfl⟩
  | @cons piece tree pieces trees htree htrees =>
      cases htrees with
      | nil => exact ⟨htree.nesting 0 (Nat.zero_le 1), htree.toExpr⟩
      | @cons piece' tree' pieces trees htree' htrees =>
          have hall : (piece :: piece' :: pieces).Forall₂ (IsReadTo flags) (tree :: tree' :: trees) :=
            .cons htree (.cons htree' htrees)
          have hconcat : Sequence.toTree ⟨first, (tree :: tree' :: trees).reverse⟩ stop =
              .concat ⟨first, stop⟩ (tree :: tree' :: trees) := by
            unfold Sequence.toTree
            split
            · next h => exact absurd (congrArg List.length h) (by simp)
            · next h => exact absurd (congrArg List.length h) (by simp)
            · rw [List.reverse_reverse]
          rw [hconcat, Tree.checkNesting, Tree.toExpr, toExprs_eq hall []]
          exact ⟨checkNestingParts_eq hall, rfl⟩

end Trees

theorem read_source {flags : RegexFlags} (pieces : List Piece)
    (h : flags.ignoreWhiteSpace = false) : read (source pieces) flags = .ok (whole flags pieces) := by
  obtain ⟨trees, stop, htrees, hread⟩ := exists_readOn_eq flags pieces 1 [] .first
  obtain ⟨hnesting, hexpr⟩ := toTree_isReadTo htrees .first stop
  rw [Nat.add_comm, List.append_nil, readOn_nil] at hread
  have hparse : parse (source pieces) false =
      .ok (Sequence.toTree ⟨.first, trees.reverse⟩ stop) := by
    show (readOn ((source pieces).toList.length + 1) [] (source pieces).toList .first >>= fun tree => do
      tree.checkNesting 0
      .ok tree) = _
    rw [source, String.toList_ofList, hread]
    show ((Sequence.toTree ⟨.first, trees.reverse⟩ stop).checkNesting 0 >>= fun _ => _) = _
    rw [hnesting]
    rfl
  rw [Regex.read, h, hparse]
  show ((Sequence.toTree ⟨.first, trees.reverse⟩ stop).toExpr (modes flags) >>= fun result =>
    .ok result.1) = _
  rw [hexpr]
  rfl

end Piece

namespace Regex

theorem isUpper_iff {c : Char} : c.isUpper = true ↔ 65 ≤ c.toNat ∧ c.toNat ≤ 90 :=
  decide_eq_true_iff

theorem isLower_iff {c : Char} : c.isLower = true ↔ 97 ≤ c.toNat ∧ c.toNat ≤ 122 :=
  Bool.and_eq_true_iff.trans (and_congr decide_eq_true_iff decide_eq_true_iff)

theorem isDigit_iff {c : Char} : c.isDigit = true ↔ 48 ≤ c.toNat ∧ c.toNat ≤ 57 :=
  Bool.and_eq_true_iff.trans (and_congr decide_eq_true_iff decide_eq_true_iff)

theorem isAlphanum_iff {c : Char} :
    c.isAlphanum = true ↔ (c.isUpper = true ∨ c.isLower = true) ∨ c.isDigit = true :=
  Bool.or_eq_true_iff.trans (or_congr Bool.or_eq_true_iff Iff.rfl)

end Regex

theorem Text.IsPlain.isAscii {x : Char} (h : IsPlain x) : x.toNat < 0x80 := by
  rcases h with h | rfl | rfl
  · rw [isAlphanum_iff, isUpper_iff, isLower_iff, isDigit_iff] at h
    omega
  · decide
  · decide

namespace Regex

theorem toNat_toLower (c : Char) :
    c.toLower.toNat = if c.isUpper then c.toNat + 32 else c.toNat := by
  unfold Char.toLower
  split
  · next h =>
      have hupper := isUpper_iff.1 (decide_eq_true h)
      have h32 : (32 : UInt32).toNat = 32 := rfl
      rw [if_pos (isUpper_iff.2 hupper)]
      show (c.val + 32).toNat = c.val.toNat + 32
      rw [UInt32.toNat_add]
      have hval : c.val.toNat = c.toNat := rfl
      omega
  · next h =>
      have hupper : ¬ c.isUpper = true := fun hupper => h (of_decide_eq_true hupper)
      rw [if_neg hupper]

theorem toNat_toUpper (c : Char) :
    c.toUpper.toNat = if c.isLower then c.toNat - 32 else c.toNat := by
  unfold Char.toUpper
  split
  · next h =>
      have hlower : 97 ≤ c.toNat ∧ c.toNat ≤ 122 := h
      -- the difference is negative, so it is added modulo the size of a word
      have hdiff : ('A'.val - 'a'.val).toNat = 4294967264 := rfl
      rw [if_pos (isLower_iff.2 hlower)]
      show (c.val + ('A'.val - 'a'.val)).toNat = c.val.toNat - 32
      rw [UInt32.toNat_add]
      have hval : c.val.toNat = c.toNat := rfl
      omega
  · next h =>
      have hlower : ¬ c.isLower = true := fun hlower => h (isLower_iff.1 hlower)
      rw [if_neg hlower]

theorem toLower_eq_toLower_iff {c x : Char} :
    c.toLower = x.toLower ↔
      c = x ∨ c.isUpper = true ∧ c.toLower = x ∨ c.isLower = true ∧ c.toUpper = x := by
  simp only [← Char.toNat_inj, toNat_toLower, toNat_toUpper, isUpper_iff, isLower_iff]
  grind

/-- The variants of an ASCII character within ASCII. Two letters have a variant beyond. -/
theorem any_asciiCaseVariants_iff {c x : Char} (hx : x.toNat < 0x80) :
    (Unicode.asciiCaseVariants c).any (· == x) = true ↔
      c.isUpper = true ∧ c.toLower = x ∨ c.isLower = true ∧ c.toUpper = x := by
  have hbeyond : (if c.toLower = 'k' then ['\u212a'] else if c.toLower = 's' then ['\u017f']
      else []).any (· == x) = false := by
    have hk : '\u212a' ≠ x := by
      rintro rfl
      exact absurd hx (by decide)
    have hs : '\u017f' ≠ x := by
      rintro rfl
      exact absurd hx (by decide)
    split
    · simp [hk]
    · split
      · simp [hs]
      · rfl
  have hboth : ¬ (c.isUpper = true ∧ c.isLower = true) := by
    rw [isUpper_iff, isLower_iff]
    omega
  rw [Unicode.asciiCaseVariants, List.any_append, hbeyond, Bool.or_false]
  split
  · next hupper =>
      have hlower : ¬ c.isLower = true := fun hlower => hboth ⟨hupper, hlower⟩
      simp [hupper, hlower]
  · next hupper =>
      split
      · next hlower => simp [hupper, hlower]
      · next hlower => simp [hupper, hlower]

theorem fold_modes_iff {flags : RegexFlags} {c x : Char} (hc : c.toNat < 0x80)
    (hx : x.toNat < 0x80) :
    (modes flags).fold (· == x) c = true ↔
      if flags.ignoreCase then c.toLower = x.toLower else c = x := by
  cases hcase : flags.ignoreCase with
  | false =>
      have hfold : (modes flags).fold (· == x) = (· == x) := by
        simp [Modes.fold, modes, hcase]
      rw [hfold, beq_iff_eq]
      exact Iff.rfl
  | true =>
      have hfold : (modes flags).fold (· == x) c =
          (c == x || (Unicode.caseVariants c).any (· == x)) := by
        simp [Modes.fold, modes, hcase]
      rw [hfold, Unicode.caseVariants, if_pos hc, Bool.or_eq_true, beq_iff_eq,
        any_asciiCaseVariants_iff hx, if_pos rfl, toLower_eq_toLower_iff]

/-- A repeated step over one character leads over any number of accepted characters. -/
theorem times_advance_iff {accepts : Char → Bool} {n : Nat} (before : List Char) {rest : List Char}
    {q : Place} :
    Times (fun p q => p.advance? accepts = some q) n (.between before rest) q ↔
      ∃ part after, part ++ after = rest ∧ part.length = n ∧ (∀ c ∈ part, accepts c = true) ∧
        q = .between (before ++ part) after := by
  induction n generalizing before rest with
  | zero =>
      constructor
      · rintro rfl
        exact ⟨[], rest, rfl, rfl, by simp, by rw [List.append_nil]⟩
      · rintro ⟨part, after, rfl, hlength, -, rfl⟩
        cases List.eq_nil_of_length_eq_zero hlength
        rw [List.append_nil]
        rfl
  | succ n ih =>
      constructor
      · rintro ⟨r, hadvance, htimes⟩
        obtain ⟨c, rest, rfl, haccepts, rfl⟩ := (Place.advance?_between_iff before).1 hadvance
        obtain ⟨part, after, rfl, hlength, hall, rfl⟩ := (ih (before ++ [c])).1 htimes
        refine ⟨c :: part, after, rfl, congrArg Nat.succ hlength, ?_, ?_⟩
        · exact List.forall_mem_cons.2 ⟨haccepts, hall⟩
        · rw [List.append_assoc, List.singleton_append]
      · rintro ⟨part, after, rfl, hlength, hall, rfl⟩
        obtain ⟨c, part, rfl⟩ := List.exists_cons_of_length_eq_add_one hlength
        obtain ⟨hc, hall⟩ := List.forall_mem_cons.1 hall
        refine ⟨.between (before ++ [c]) (part ++ after), ?_, ?_⟩
        · exact (Place.advance?_between_iff before).2 ⟨c, part ++ after, rfl, hc, rfl⟩
        · refine (ih (before ++ [c])).2 ⟨part, after, rfl, Nat.succ.inj hlength, hall, ?_⟩
          rw [List.append_assoc, List.singleton_append]

/-- An assertion leads nowhere else. -/
theorem matches_look_iff {look : Look} {holds : List Char → Prop} (before : List Char)
    {rest : List Char} {q : Place} (h : look.holds (.between before rest) = true ↔ holds rest) :
    (Expr.look look).Matches (.between before rest) q ↔
      ∃ part after, part ++ after = rest ∧ (part = [] ∧ holds after) ∧
        q = .between (before ++ part) after := by
  constructor
  · rintro ⟨hlook, rfl⟩
    exact ⟨[], rest, rfl, ⟨rfl, h.1 hlook⟩, by rw [List.append_nil]⟩
  · rintro ⟨part, after, rfl, ⟨rfl, hlook⟩, rfl⟩
    exact ⟨h.2 hlook, by rw [List.append_nil]; rfl⟩

theorem holds_startLine_iff (flags : RegexFlags) (before rest : List Char) :
    ((modes flags).look .startLine).holds (.between before rest) = true ↔
      before = [] ∨ flags.multiLine = true ∧ before.getLast? = some '\n' := by
  cases hlines : flags.multiLine with
  | true => simp [Modes.look, modes, hlines, Look.holds, Place.between]
  | false => simp [Modes.look, modes, hlines, Look.holds, Place.between]

theorem holds_endLine_iff (flags : RegexFlags) (before rest : List Char) :
    ((modes flags).look .endLine).holds (.between before rest) = true ↔
      rest = [] ∨ flags.multiLine = true ∧ rest.head? = some '\n' := by
  cases hlines : flags.multiLine with
  | true => simp [Modes.look, modes, hlines, Look.holds, Place.between]
  | false => simp [Modes.look, modes, hlines, Look.holds, Place.between]

end Regex

namespace Piece

/-- A match of the expression of a piece leads over the texts that the piece stands for. -/
theorem matches_expr_iff {flags : RegexFlags} {piece : Piece} (before : List Char)
    {rest : List Char} (hrest : ∀ c ∈ rest, c.toNat < 0x80) {q : Regex.Place} :
    (piece.expr flags).Matches (.between before rest) q ↔
      ∃ part after, part ++ after = rest ∧ piece.Fits flags before part after ∧
        q = .between (before ++ part) after := by
  cases piece with
  | char x plain =>
      constructor
      · intro hadvance
        obtain ⟨c, after, rfl, haccepts, rfl⟩ :=
          (Regex.Place.advance?_between_iff before).1 hadvance
        obtain ⟨hc, -⟩ := List.forall_mem_cons.1 hrest
        exact ⟨[c], after, rfl, ⟨c, rfl, (fold_modes_iff hc plain.isAscii).1 haccepts⟩, rfl⟩
      · rintro ⟨_, after, rfl, ⟨c, rfl, hc⟩, rfl⟩
        obtain ⟨hascii, -⟩ := List.forall_mem_cons.1 hrest
        exact (Regex.Place.advance?_between_iff before).2
          ⟨c, after, rfl, (fold_modes_iff hascii plain.isAscii).2 hc, rfl⟩
  | start => exact matches_look_iff before (holds_startLine_iff flags before rest)
  | stop => exact matches_look_iff before (holds_endLine_iff flags before rest)
  | anything =>
      obtain ⟨accepts, size, hdot, haccepts⟩ : ∃ accepts size, flags.dot = .one accepts size ∧
          ∀ c, accepts c = true ↔ (c = '\n' → flags.dotMatchesNewLine = true) := by
        unfold RegexFlags.dot
        cases flags.dotMatchesNewLine with
        | true => exact ⟨_, _, rfl, by simp⟩
        | false => exact ⟨_, _, rfl, by simp⟩
      have hall : ∀ part : List Char, (∀ c ∈ part, accepts c = true) ↔
          ('\n' ∈ part → flags.dotMatchesNewLine = true) := by
        intro part
        simp only [haccepts]
        exact ⟨fun h hmem => h _ hmem rfl, fun h c hc heq => h (heq ▸ hc)⟩
      rw [expr, hdot]
      constructor
      · rintro ⟨r, rfl, n, -, htimes⟩
        obtain ⟨part, after, hcs, -, hpart, rfl⟩ := (times_advance_iff before).1 htimes
        exact ⟨part, after, hcs, (hall part).1 hpart, rfl⟩
      · rintro ⟨part, after, hcs, hpart, rfl⟩
        refine ⟨_, rfl, part.length, by simp, (times_advance_iff before).2 ?_⟩
        exact ⟨part, after, hcs, rfl, (hall part).2 hpart, rfl⟩

theorem matchesAll_iff {flags : RegexFlags} {pieces : List Piece} (before : List Char)
    {rest : List Char} (hrest : ∀ c ∈ rest, c.toNat < 0x80) {q : Regex.Place} :
    MatchesAll (pieces.map (expr flags)) (.between before rest) q ↔
      ∃ part after, part ++ after = rest ∧ AllFit flags pieces before part after ∧
        q = .between (before ++ part) after := by
  induction pieces generalizing before rest with
  | nil =>
      constructor
      · rintro rfl
        exact ⟨[], rest, rfl, rfl, by rw [List.append_nil]⟩
      · rintro ⟨part, after, rfl, rfl, rfl⟩
        rw [List.append_nil]
        rfl
  | cons piece pieces ih =>
      constructor
      · rintro ⟨r, hpiece, hmatch⟩
        obtain ⟨first, behind, rfl, hfirst, rfl⟩ := (matches_expr_iff before hrest).1 hpiece
        obtain ⟨others, after, rfl, hothers, rfl⟩ :=
          (ih (before ++ first) (List.forall_mem_append.1 hrest).2).1 hmatch
        refine ⟨first ++ others, after, List.append_assoc _ _ _,
          ⟨first, others, rfl, hfirst, hothers⟩, by rw [List.append_assoc]⟩
      · rintro ⟨part, after, rfl, ⟨first, others, rfl, hfirst, hothers⟩, rfl⟩
        rw [List.append_assoc first others after] at hrest ⊢
        refine ⟨.between (before ++ first) (others ++ after), ?_, ?_⟩
        · exact (matches_expr_iff before hrest).2 ⟨first, others ++ after, rfl, hfirst, rfl⟩
        · refine (ih (before ++ first) (List.forall_mem_append.1 hrest).2).2
            ⟨others, after, rfl, hothers, by rw [List.append_assoc]⟩

theorem matches_whole_iff {flags : RegexFlags} {pieces : List Piece} {p q : Regex.Place} :
    (whole flags pieces).Matches p q ↔ MatchesAll (pieces.map (expr flags)) p q := by
  unfold whole
  split
  · exact Iff.rfl
  · next piece =>
      constructor
      · exact fun h => ⟨q, h, rfl⟩
      · rintro ⟨r, h, rfl⟩
        exact h
  · exact Iff.rfl

theorem matchesIn_whole_iff {flags : RegexFlags} {pieces : List Piece} {t : String}
    (ht : ∀ c ∈ t.toList, c.toNat < 0x80) :
    (whole flags pieces).matchesIn t = true ↔
      ∃ before part after, before ++ (part ++ after) = t.toList ∧
        AllFit flags pieces before part after := by
  rw [Expr.matchesIn_iff]
  simp only [matches_whole_iff]
  constructor
  · rintro ⟨p, q, ⟨before, rest, hcs, rfl⟩, hmatch⟩
    have hrest : ∀ c ∈ rest, c.toNat < 0x80 := fun c hc =>
      ht c (hcs ▸ List.mem_append_right before hc)
    obtain ⟨part, after, rfl, hfit, -⟩ := (matchesAll_iff before hrest).1 hmatch
    exact ⟨before, part, after, hcs, hfit⟩
  · rintro ⟨before, part, after, hcs, hfit⟩
    have hrest : ∀ c ∈ part ++ after, c.toNat < 0x80 := fun c hc =>
      ht c (hcs ▸ List.mem_append_right before hc)
    exact ⟨_, _, ⟨before, part ++ after, hcs, rfl⟩,
      (matchesAll_iff before hrest).2 ⟨part, after, rfl, hfit, rfl⟩⟩

end Piece

namespace Regex

/-- How many bytes a source takes when the engine builds it. -/
def bytesOf (source : String) (flags : RegexFlags) : Nat :=
  match read source flags with
  | .ok e => e.bytes
  | .error _ => 0

theorem forward_sizeOfAll (counted : Size) (es : List Expr) :
    (sizeOfAll counted es).forward = counted.forward + (es.map fun e => e.size.forward).sum := by
  induction es generalizing counted with
  | nil => rfl
  | cons e es ih =>
      rw [sizeOfAll, ih, List.map_cons, List.sum_cons, ← Nat.add_assoc]
      rfl

theorem sum_forward_le_bytes_whole (flags : RegexFlags) (pieces : List Piece) :
    (pieces.map fun piece => (piece.expr flags).size.forward).sum ≤
      (Piece.whole flags pieces).bytes := by
  refine Nat.le_trans ?_ (Nat.le_max_left _ _)
  unfold Piece.whole
  split
  · exact Nat.zero_le _
  · simp
  · have hsize := forward_sizeOfAll (.both 0) (pieces.map (Piece.expr flags))
    rw [List.map_map, show (Size.both 0).forward = 0 from rfl, Nat.zero_add] at hsize
    exact Nat.le_add_right_of_le (Nat.le_of_eq hsize.symm)

theorem bytesOf_source {flags : RegexFlags} (pieces : List Piece)
    (h : flags.ignoreWhiteSpace = false) :
    bytesOf (Piece.source pieces) flags = (Piece.whole flags pieces).bytes := by
  rw [bytesOf, Piece.read_source pieces h]

theorem build_source {flags : RegexFlags} (pieces : List Piece)
    (h : flags.ignoreWhiteSpace = false) :
    RegexLibrary.build (Piece.source pieces) flags =
      if RegexLibrary.sizeLimit < bytesOf (Piece.source pieces) flags then .error RegexLibrary.tooBig
      else .ok (Piece.whole flags pieces).matchesIn := by
  simp only [RegexLibrary.build, compile, bytesOf_source pieces h, Piece.read_source pieces h]
  by_cases hlimit : RegexLibrary.sizeLimit < (Piece.whole flags pieces).bytes
  · rw [if_pos hlimit, if_pos hlimit]
    rfl
  · rw [if_neg hlimit, if_neg hlimit]

/-- **The laws of pieces hold of the engine.** -/
theorem engine_pieceLaws : RegexLibrary.PieceLaws bytesOf where
  build_of_le pieces h hle := ⟨_, (build_source pieces h).trans (if_neg (Nat.not_lt.2 hle))⟩
  build_of_lt pieces h hlt := (build_source pieces h).trans (if_pos hlt)
  test_iff {flags} pieces test h hbuild t ht := by
    have htest : test = (Piece.whole flags pieces).matchesIn := by
      rw [build_source pieces h] at hbuild
      split at hbuild
      · cases hbuild
      · exact (Except.ok.inj hbuild).symm
    rw [htest]
    exact Piece.matchesIn_whole_iff ht

/-- So many bytes are enough for something in both automata. -/
def Size.AtMost (bound : Nat) (size : Size) : Prop := size.forward ≤ bound ∧ size.backward ≤ bound

instance (bound : Nat) (size : Size) : Decidable (size.AtMost bound) :=
  inferInstanceAs (Decidable (_ ∧ _))

theorem Size.AtMost.trans {bound bound' : Nat} {size : Size} (h : size.AtMost bound)
    (hle : bound ≤ bound') : size.AtMost bound' :=
  ⟨Nat.le_trans h.1 hle, Nat.le_trans h.2 hle⟩

theorem letterSize_atMost (flags : RegexFlags) {x : Char} (hx : x.toNat < 0x80) :
    ((modes flags).letterSize x).AtMost 1040 := by
  have hletters : ∀ (ignoreCase : Bool) (n : Fin 0x80),
      ((modes { ignoreCase }).letterSize (.ofNat n)).AtMost 1040 := by decide +kernel
  have hletter := hletters flags.ignoreCase ⟨x.toNat, hx⟩
  rwa [Char.ofNat_toNat] at hletter

theorem sizeOfAll_atMost {bound : Nat} {es : List Expr} (h : ∀ e ∈ es, e.size.AtMost bound)
    {n : Nat} {counted : Size} (hcounted : counted.AtMost n) :
    (sizeOfAll counted es).AtMost (n + bound * es.length) := by
  induction es generalizing n counted with
  | nil => exact hcounted
  | cons e es ih =>
      obtain ⟨he, hes⟩ := List.forall_mem_cons.1 h
      have hmore : (counted + e.size).AtMost (n + bound) :=
        ⟨Nat.add_le_add hcounted.1 he.1, Nat.add_le_add hcounted.2 he.2⟩
      rw [sizeOfAll, List.length_cons, Nat.mul_succ, Nat.add_comm (bound * es.length),
        ← Nat.add_assoc]
      exact ih hes hmore

end Regex

namespace Piece

/-- No piece takes more than the repeated dot. -/
theorem size_expr_atMost (flags : RegexFlags) (piece : Piece) :
    (piece.expr flags).size.AtMost 1040 := by
  have hstate : Size.state.AtMost 1040 := by decide
  cases piece with
  | char x plain => exact letterSize_atMost flags plain.isAscii
  | start => exact hstate
  | stop => exact hstate
  | anything =>
      rw [expr, Expr.size]
      unfold RegexFlags.dot
      cases flags.dotMatchesNewLine with
      | true => decide
      | false => decide

theorem size_whole_atMost (flags : RegexFlags) (pieces : List Piece) :
    (whole flags pieces).size.AtMost (1040 * pieces.length + 32) := by
  unfold whole
  split
  · decide
  · next piece => exact (size_expr_atMost flags piece).trans (Nat.le_add_right 1040 32)
  · have hall : ∀ e ∈ pieces.map (expr flags), e.size.AtMost 1040 := by
      simp only [List.forall_mem_map]
      exact fun piece _ => size_expr_atMost flags piece
    have hnone : (Size.both 0).AtMost 32 := by decide
    have hsize := sizeOfAll_atMost hall hnone
    rw [List.length_map, Nat.add_comm] at hsize
    exact hsize

/-- Patterns grow no faster than by so many bytes with each piece. -/
theorem bytes_whole_le (flags : RegexFlags) (pieces : List Piece) :
    (whole flags pieces).bytes ≤ 1040 * pieces.length + 160 := by
  obtain ⟨hforward, hbackward⟩ := size_whole_atMost flags pieces
  unfold Expr.bytes
  omega

end Piece

end FilterQuery
