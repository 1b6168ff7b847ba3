import FilterQuery.Proofs.EngineLaws
import FilterQuery.Proofs.History

/-!
# Patterns of plain values

A value may use the syntax of regular expressions. A value of letters, digits, blanks and underscores
uses none of it: each of its characters is read as itself. So the pattern for a whole text asks for the
value and for nothing else, and the pattern for a part of a text asks for a part that is the value, both
without regard to case.

The anchors of the first pattern hold at the two ends of a text only, not at the ends of its lines. The
second pattern allows the rest of a line around the value. It is satisfied with nothing there as well,
and so the ends of lines do not matter to it either.

Even such a pattern is refused when it is too big, which a library decides by the size of what it builds.
With the engine a value of ten thousand characters is never too long, and one of two hundred thousand
letters is.
-/

namespace FilterQuery

open Text (IsPlain)

namespace Piece

/-- Plain characters one behind the other. -/
def letters (cs : List Char) (h : ∀ c ∈ cs, IsPlain c) : List Piece := cs.pmap char h

theorem flatMap_chars_letters {cs : List Char} (h : ∀ c ∈ cs, IsPlain c) :
    (letters cs h).flatMap chars = cs := by
  induction cs with
  | nil => rfl
  | cons c cs ih => exact congrArg (c :: ·) (ih fun x hx => h x (.tail c hx))

theorem allFit_append {flags : RegexFlags} {left right : List Piece} {before part after : List Char} :
    AllFit flags (left ++ right) before part after ↔
      ∃ first others, first ++ others = part ∧ AllFit flags left before first (others ++ after) ∧
        AllFit flags right (before ++ first) others after := by
  induction left generalizing before part with
  | nil =>
      constructor
      · exact fun h => ⟨[], part, rfl, rfl, by rwa [List.append_nil]⟩
      · rintro ⟨first, others, rfl, rfl, h⟩
        rwa [List.append_nil] at h
  | cons piece left ih =>
      constructor
      · rintro ⟨first, _, rfl, hfirst, hothers⟩
        obtain ⟨middle, others, rfl, hmiddle, hright⟩ := ih.1 hothers
        refine ⟨first ++ middle, others, List.append_assoc _ _ _, ⟨first, middle, rfl, ?_, hmiddle⟩, ?_⟩
        · rwa [← List.append_assoc]
        · rwa [← List.append_assoc]
      · rintro ⟨_, others, rfl, ⟨first, middle, rfl, hfirst, hmiddle⟩, hright⟩
        refine ⟨first, middle ++ others, (List.append_assoc _ _ _).symm, ?_, ih.2 ?_⟩
        · rwa [List.append_assoc]
        · exact ⟨middle, others, rfl, hmiddle, by rwa [List.append_assoc]⟩

theorem allFit_singleton {flags : RegexFlags} {piece : Piece} {before part after : List Char} :
    AllFit flags [piece] before part after ↔ piece.Fits flags before part after := by
  constructor
  · rintro ⟨first, others, rfl, hfits, rfl⟩
    rwa [List.append_nil]
  · exact fun h => ⟨part, [], List.append_nil part, h, rfl⟩

/-- Without regard to case, plain characters fit what is equal to them in small letters. -/
theorem allFit_letters_iff {flags : RegexFlags} (hflags : flags.ignoreCase = true) {cs : List Char}
    (h : ∀ c ∈ cs, IsPlain c) {before part after : List Char} :
    AllFit flags (letters cs h) before part after ↔
      part.map Char.toLower = cs.map Char.toLower := by
  induction cs generalizing before part with
  | nil => exact List.map_eq_nil_iff.symm
  | cons x cs ih =>
      have hrest : ∀ c ∈ cs, IsPlain c := fun c hc => h c (.tail x hc)
      constructor
      · rintro ⟨_, others, rfl, ⟨c, rfl, hc⟩, hothers⟩
        rw [if_pos hflags] at hc
        rw [List.singleton_append, List.map_cons, List.map_cons, hc, (ih hrest).1 hothers]
      · intro hpart
        obtain ⟨c, others, rfl, hc, hothers⟩ := List.map_eq_cons_iff.1 hpart
        exact ⟨[c], others, rfl, ⟨c, rfl, (if_pos hflags).mpr hc⟩, (ih hrest).2 hothers⟩

end Piece

open Piece (letters)

namespace Pattern

/-- The flags of a pattern that is matched without regard to case. -/
def caseless : RegexFlags := { ignoreCase := true }

theorem flags_exact (s : String) : (exact s).flags = caseless := by
  show (⟨ignoreCase.toList.contains 'i', ignoreCase.toList.contains 'm',
    ignoreCase.toList.contains 's', ignoreCase.toList.contains 'x'⟩ : RegexFlags) = caseless
  decide

theorem flags_containing (s : String) : (containing s).flags = caseless := flags_exact s

def exactPieces (s : String) (hs : ∀ c ∈ s.toList, IsPlain c) : List Piece :=
  .start :: (letters s.toList hs ++ [.stop])

def containingPieces (s : String) (hs : ∀ c ∈ s.toList, IsPlain c) : List Piece :=
  .anything :: (letters s.toList hs ++ [.anything])

variable {s : String} (hs : ∀ c ∈ s.toList, IsPlain c)

theorem toList_source_around (first last : Piece) :
    (Piece.source (first :: (letters s.toList hs ++ [last]))).toList =
      first.chars ++ (s.toList ++ last.chars) := by
  rw [Piece.source, String.toList_ofList, List.flatMap_cons, List.flatMap_append,
    Piece.flatMap_chars_letters, List.flatMap_singleton]

theorem source_exact : (exact s).source = Piece.source (exactPieces s hs) := by
  rw [← String.toList_inj, exactPieces, toList_source_around]
  simp [exact, Piece.chars]

theorem source_containing : (containing s).source = Piece.source (containingPieces s hs) := by
  rw [← String.toList_inj, containingPieces, toList_source_around]
  simp [containing, Piece.chars]

theorem allFit_exactPieces_iff {before part after : List Char} :
    Piece.AllFit caseless (exactPieces s hs) before part after ↔
      before = [] ∧ after = [] ∧ part.map Char.toLower = s.toList.map Char.toLower := by
  constructor
  · rintro ⟨_, _, rfl, ⟨rfl, hbefore⟩, hrest⟩
    obtain ⟨middle, _, rfl, hmiddle, hstop⟩ := Piece.allFit_append.1 hrest
    obtain ⟨rfl, hafter⟩ := Piece.allFit_singleton.1 hstop
    -- the anchors are about lines only with a flag that is off
    refine ⟨hbefore.resolve_right fun h => Bool.noConfusion h.1,
      hafter.resolve_right fun h => Bool.noConfusion h.1, ?_⟩
    rw [List.nil_append, List.append_nil]
    exact (Piece.allFit_letters_iff rfl hs).1 hmiddle
  · rintro ⟨rfl, rfl, hpart⟩
    refine ⟨[], part, rfl, ⟨rfl, .inl rfl⟩, Piece.allFit_append.2 ?_⟩
    refine ⟨part, [], List.append_nil part, (Piece.allFit_letters_iff rfl hs).2 hpart, ?_⟩
    exact Piece.allFit_singleton.2 ⟨rfl, .inl rfl⟩

theorem exists_allFit_containingPieces_iff {cs : List Char} :
    (∃ before part after, before ++ (part ++ after) = cs ∧
        Piece.AllFit caseless (containingPieces s hs) before part after) ↔
      ∃ before middle after, before ++ (middle ++ after) = cs ∧
        middle.map Char.toLower = s.toList.map Char.toLower := by
  constructor
  · rintro ⟨before, _, after, rfl, left, _, rfl, -, hrest⟩
    obtain ⟨middle, right, rfl, hmiddle, -⟩ := Piece.allFit_append.1 hrest
    refine ⟨before ++ left, middle, right ++ after, ?_, (Piece.allFit_letters_iff rfl hs).1 hmiddle⟩
    simp only [List.append_assoc]
  · rintro ⟨before, middle, after, rfl, hmiddle⟩
    -- the dots may stand for nothing, and in nothing there is no end of a line
    have hnothing : ∀ left right, Piece.Fits caseless left [] right .anything := fun _ _ h => nomatch h
    refine ⟨before, middle, after, rfl, [], middle, rfl, hnothing _ _, Piece.allFit_append.2 ?_⟩
    refine ⟨middle, [], List.append_nil middle, (Piece.allFit_letters_iff rfl hs).2 hmiddle, ?_⟩
    exact Piece.allFit_singleton.2 (hnothing _ _)

end Pattern

theorem Text.asciiLower_eq_iff {s t : String} : asciiLower s = asciiLower t ↔
    s.toList.map Char.toLower = t.toList.map Char.toLower := by
  rw [asciiLower, asciiLower, ← String.toList_inj, String.toList_map, String.toList_map]

section Library

variable [RegexLibrary] {size : String → RegexFlags → Nat} (laws : RegexLibrary.PieceLaws size)

/-- A write of a pattern reports the fault of the pattern and the loss of a value. -/
theorem Draft.diagnostics_write_regex (p : Pattern) (draft : Draft) (category : Category)
    (key : String) :
    (draft.write category key (.regex p)).diagnostics =
      draft.diagnostics ++ (p.fault?.toList.map fun message =>
        ⟨category, key, .invalidPattern message⟩) ++ draft.lossReports category key := by
  have hfaults : QueryValue.patternFaults (.regex p) = p.fault?.toList := by
    cases hfault : p.fault? with
    | none => simp [QueryValue.patternFaults, QueryValue.patterns, hfault]
    | some message => simp [QueryValue.patternFaults, QueryValue.patterns, hfault]
  rw [write_eq, faultReports, hfaults]

include laws

/-- The one thing that can be wrong with a pattern of pieces is its size. -/
theorem Pattern.isBuilt_of_pieces {p : Pattern} {pieces : List Piece}
    (hsource : p.source = Piece.source pieces) (hflags : p.flags = caseless) :
    (size p.source p.flags ≤ RegexLibrary.sizeLimit → ∃ test, p.toRegex = .ok test) ∧
      (RegexLibrary.sizeLimit < size p.source p.flags → p.toRegex = .error RegexLibrary.tooBig) := by
  unfold toRegex
  rw [hsource, hflags]
  exact ⟨laws.build_of_le pieces rfl, laws.build_of_lt pieces rfl⟩

theorem Pattern.fault?_of_pieces {p : Pattern} {pieces : List Piece}
    (hsource : p.source = Piece.source pieces) (hflags : p.flags = caseless) :
    p.fault? =
      if RegexLibrary.sizeLimit < size p.source p.flags then some RegexLibrary.tooBig else none := by
  obtain ⟨hsmall, hbig⟩ := isBuilt_of_pieces laws hsource hflags
  unfold fault?
  split
  · next test htest =>
      rw [if_neg fun hlt => nomatch htest.symm.trans (hbig hlt)]
  · next message hmessage =>
      have hlt : RegexLibrary.sizeLimit < size p.source p.flags := by
        by_contra hle
        obtain ⟨test, htest⟩ := hsmall (Nat.not_lt.1 hle)
        exact nomatch htest.symm.trans hmessage
      rw [if_pos hlt, Except.error.inj (hmessage.symm.trans (hbig hlt))]

theorem Pattern.test_exact_iff {s : String} (hs : ∀ c ∈ s.toList, IsPlain c) {test : String → Bool}
    (htest : (exact s).toRegex = .ok test) {t : String} (ht : ∀ c ∈ t.toList, c.toNat < 0x80) :
    test t = true ↔ Text.asciiLower t = Text.asciiLower s := by
  rw [toRegex, source_exact hs, flags_exact] at htest
  rw [laws.test_iff (exactPieces s hs) rfl htest t ht, Text.asciiLower_eq_iff]
  simp only [allFit_exactPieces_iff]
  constructor
  · rintro ⟨_, part, _, hcs, rfl, rfl, hpart⟩
    rwa [← hcs, List.nil_append, List.append_nil]
  · exact fun h => ⟨[], t.toList, [], List.append_nil _, rfl, rfl, h⟩

theorem Pattern.test_containing_iff {s : String} (hs : ∀ c ∈ s.toList, IsPlain c)
    {test : String → Bool} (htest : (containing s).toRegex = .ok test) {t : String}
    (ht : ∀ c ∈ t.toList, c.toNat < 0x80) :
    test t = true ↔ ∃ before middle after, t = before ++ middle ++ after ∧
      Text.asciiLower middle = Text.asciiLower s := by
  rw [toRegex, source_containing hs, flags_containing] at htest
  rw [laws.test_iff (containingPieces s hs) rfl htest t ht, exists_allFit_containingPieces_iff]
  constructor
  · rintro ⟨before, middle, after, hcs, hmiddle⟩
    refine ⟨.ofList before, .ofList middle, .ofList after, ?_, ?_⟩
    · rw [← String.toList_inj, ← hcs]
      simp
    · rwa [Text.asciiLower_eq_iff, String.toList_ofList]
  · rintro ⟨before, middle, after, rfl, hmiddle⟩
    exact ⟨before.toList, middle.toList, after.toList, by simp, Text.asciiLower_eq_iff.1 hmiddle⟩

end Library

/-- What a plain value takes by itself is a part of what its pattern takes. -/
theorem Regex.sum_letterSize_le_bytesOf_exact {s : String} (hs : ∀ c ∈ s.toList, IsPlain c) :
    (s.toList.map fun c => ((modes Pattern.caseless).letterSize c).forward).sum ≤
      bytesOf (Pattern.exact s).source (Pattern.exact s).flags := by
  have hletters : (letters s.toList hs).map
        (fun piece => (piece.expr Pattern.caseless).size.forward) =
      s.toList.map fun c => ((modes Pattern.caseless).letterSize c).forward := by
    rw [letters, List.map_pmap]
    exact List.pmap_eq_map (f := fun c => ((modes Pattern.caseless).letterSize c).forward) hs
  rw [Pattern.source_exact hs, Pattern.flags_exact, bytesOf_source _ rfl]
  refine Nat.le_trans ?_ (sum_forward_le_bytes_whole Pattern.caseless (Pattern.exactPieces s hs))
  rw [Pattern.exactPieces, List.map_cons, List.sum_cons, List.map_append, List.sum_append, hletters]
  omega

/-- The engine refuses no plain value of ten thousand characters or less. -/
theorem Regex.exists_toRegex_of_length_le {s : String} (hs : ∀ c ∈ s.toList, IsPlain c)
    (hlength : s.toList.length ≤ 10000) :
    (∃ test, (Pattern.exact s).toRegex = .ok test) ∧
      ∃ test, (Pattern.containing s).toRegex = .ok test := by
  have hbuilt : ∀ {p : Pattern} {pieces : List Piece}, p.source = Piece.source pieces →
      p.flags = Pattern.caseless → pieces.length = s.toList.length + 2 →
        ∃ test, p.toRegex = .ok test := by
    intro p pieces hsource hflags hpieces
    refine (Pattern.isBuilt_of_pieces engine_pieceLaws hsource hflags).1 ?_
    have hle := Piece.bytes_whole_le Pattern.caseless pieces
    rw [hsource, hflags, bytesOf_source pieces rfl, RegexLibrary.sizeLimit]
    omega
  constructor
  · exact hbuilt (Pattern.source_exact hs) (Pattern.flags_exact s)
      (by simp [Pattern.exactPieces, letters])
  · exact hbuilt (Pattern.source_containing hs) (Pattern.flags_containing s)
      (by simp [Pattern.containingPieces, letters])

/-- **A plain value is matched as it is, in either case.** The two patterns of a value of letters,
digits, blanks and underscores are regular expressions unless they are too big, so a clause with one of
them is written without a report of another fault. Of the texts in ASCII the first one matches those that
are the value but for case. The second one matches those of which a part is the value but for case. -/
theorem plain_values_are_matched_without_case [RegexLibrary] {size : String → RegexFlags → Nat}
    (laws : RegexLibrary.PieceLaws size) {s : String} (hs : ∀ c ∈ s.toList, IsPlain c) :
    (∀ p ∈ [Pattern.exact s, .containing s],
      (size p.source p.flags ≤ RegexLibrary.sizeLimit → ∃ test, p.toRegex = .ok test) ∧
      (RegexLibrary.sizeLimit < size p.source p.flags →
        p.toRegex = .error RegexLibrary.tooBig) ∧
      ∀ (draft : Draft) category key, (draft.write category key (.regex p)).diagnostics =
        draft.diagnostics ++
          (if RegexLibrary.sizeLimit < size p.source p.flags
            then [⟨category, key, .invalidPattern RegexLibrary.tooBig⟩] else []) ++
          draft.lossReports category key) ∧
    ∀ t : String, (∀ c ∈ t.toList, c.toNat < 0x80) →
      (∀ test, (Pattern.exact s).toRegex = .ok test →
        (test t = true ↔ Text.asciiLower t = Text.asciiLower s)) ∧
      ∀ test, (Pattern.containing s).toRegex = .ok test →
        (test t = true ↔ ∃ before middle after, t = before ++ middle ++ after ∧
          Text.asciiLower middle = Text.asciiLower s) := by
  refine ⟨fun p hp => ?_, fun t ht => ⟨fun test htest => ?_, fun test htest => ?_⟩⟩
  · obtain ⟨pieces, hsource, hflags⟩ :
        ∃ pieces, p.source = Piece.source pieces ∧ p.flags = Pattern.caseless := by
      simp only [List.mem_cons, List.not_mem_nil, or_false] at hp
      rcases hp with rfl | rfl
      · exact ⟨_, Pattern.source_exact hs, Pattern.flags_exact s⟩
      · exact ⟨_, Pattern.source_containing hs, Pattern.flags_containing s⟩
    obtain ⟨hsmall, hbig⟩ := Pattern.isBuilt_of_pieces laws hsource hflags
    refine ⟨hsmall, hbig, fun draft category key => ?_⟩
    rw [Draft.diagnostics_write_regex, Pattern.fault?_of_pieces laws hsource hflags]
    split
    · rfl
    · rfl
  · exact Pattern.test_exact_iff laws hs htest ht
  · exact Pattern.test_containing_iff laws hs htest ht

/-- A line break at the end keeps a text from being the value, and not from containing it. -/
theorem plain_values_are_matched_without_case_lineBreak :
    ∃ whole part, (Pattern.exact "Sku_1").toRegex = .ok whole ∧
      (Pattern.containing "Sku_1").toRegex = .ok part ∧
      whole "sKU_1" = true ∧ whole "sKU_1\n" = false ∧ part "sKU_1\n" = true := by
  obtain ⟨hbuilt, hmatches⟩ := plain_values_are_matched_without_case Regex.engine_pieceLaws
    (s := "Sku_1") (by simp [IsPlain])
  obtain ⟨whole, hwhole⟩ := (hbuilt _ (.head _)).1 (by decide +kernel)
  obtain ⟨part, hpart⟩ := (hbuilt _ (.tail _ (.head _))).1 (by decide +kernel)
  obtain ⟨hline, -⟩ := hmatches "sKU_1" (by simp)
  obtain ⟨hbroken, hcontained⟩ := hmatches "sKU_1\n" (by simp)
  refine ⟨whole, part, hwhole, hpart, (hline whole hwhole).2 ?_, ?_, (hcontained part hpart).2 ?_⟩
  · simp [Text.asciiLower_eq_iff]
  · simp [Bool.eq_false_iff, hbroken whole hwhole, Text.asciiLower_eq_iff]
  · exact ⟨"", "sKU_1", "\n", by simp, by simp [Text.asciiLower_eq_iff]⟩

/-- The pattern of two hundred thousand letters is too big, and a clause with it is reported. -/
theorem long_plain_value_is_refused :
    (∀ c ∈ (String.ofList (.replicate 200000 'a')).toList, IsPlain c) ∧
      (Pattern.exact (.ofList (.replicate 200000 'a'))).toRegex = .error RegexLibrary.tooBig ∧
      (Draft.empty.write .equality "sku"
          (.regex (.exact (.ofList (.replicate 200000 'a'))))).diagnostics =
        [⟨.equality, "sku", .invalidPattern RegexLibrary.tooBig⟩] := by
  have hs : ∀ c ∈ (String.ofList (.replicate 200000 'a')).toList, IsPlain c := by
    intro c hc
    rw [String.toList_ofList] at hc
    rw [List.eq_of_mem_replicate hc]
    exact .inl rfl
  have hletter : ((Regex.modes Pattern.caseless).letterSize 'a').forward = 80 := by decide
  have hsize := Regex.sum_letterSize_le_bytesOf_exact hs
  rw [String.toList_ofList, List.map_replicate, List.sum_replicate_nat, hletter] at hsize
  have hbig := (Pattern.isBuilt_of_pieces Regex.engine_pieceLaws (Pattern.source_exact hs)
    (Pattern.flags_exact _)).2 (Nat.lt_of_lt_of_le (by decide) hsize)
  refine ⟨hs, hbig, ?_⟩
  rw [Draft.diagnostics_write_regex, Pattern.fault?, hbig]
  rfl

end FilterQuery
