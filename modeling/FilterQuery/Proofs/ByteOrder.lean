import FilterQuery.KeyMap

/-!
# The order of bytes

Texts are compared character by character, by their code points. Compared byte by byte, in UTF-8, they
stand in the same order: of two different characters the smaller one has the smaller byte at the first
place where their encodings differ, and neither encoding is the beginning of the other.
-/

namespace FilterQuery

/-- The bytes of a text in UTF-8. -/
def utf8 (s : String) : List UInt8 := s.toUTF8.data.toList

theorem utf8_eq_flatMap (s : String) : utf8 s = s.toList.flatMap String.utf8EncodeChar := by
  rw [utf8, String.toUTF8_eq_toByteArray, ← String.utf8Encode_toList, List.utf8Encode,
    List.toList_data_toByteArray]

/-- The encoding of a smaller character is smaller, whatever follows the two. -/
theorem utf8EncodeChar_append_lt {c d : Char} (h : c < d) (left right : List UInt8) :
    String.utf8EncodeChar c ++ left < String.utf8EncodeChar d ++ right := by
  have hlt : c.val.toNat < d.val.toNat := h
  have hd : d.val.toNat < 0x110000 := by
    have hvalid : d.val.toNat.isValidChar := d.valid
    rw [Nat.isValidChar] at hvalid
    omega
  simp only [String.utf8EncodeChar]
  generalize c.val.toNat = m at hlt
  generalize d.val.toNat = n at hlt hd
  -- encodings of one length are numbers to the base 64, compared from the top digit down
  have hlow : m / 64 < n / 64 ∨ m / 64 = n / 64 ∧ m % 64 < n % 64 := by omega
  have hmiddle : m / 64 < n / 64 → m / 4096 < n / 4096 ∨
      m / 4096 = n / 4096 ∧ m / 64 % 64 < n / 64 % 64 := by omega
  have htop : m / 4096 < n / 4096 → m / 262144 < n / 262144 ∨
      m / 262144 = n / 262144 ∧ m / 4096 % 64 < n / 4096 % 64 := by omega
  repeat' split
  all_goals
    simp only [List.cons_append, List.nil_append, List.cons_lt_cons_iff, UInt8.lt_iff_toNat_lt,
      ← UInt8.toNat_inj, UInt8.toNat_ofNat']
    simp (disch := omega) only [Nat.mod_eq_of_lt]
    omega

theorem flatMap_utf8EncodeChar_lt {cs ds : List Char} (h : cs < ds) :
    cs.flatMap String.utf8EncodeChar < ds.flatMap String.utf8EncodeChar := by
  induction cs generalizing ds with
  | nil =>
      cases ds with
      | nil => exact absurd h (List.lt_irrefl [])
      | cons d ds =>
          rw [List.flatMap_nil, List.flatMap_cons]
          cases hencoded : String.utf8EncodeChar d with
          | nil => exact absurd hencoded String.utf8EncodeChar_ne_nil
          | cons b rest => exact List.nil_lt_cons b _
  | cons c cs ih =>
      cases ds with
      | nil => exact absurd h (List.not_lt_nil _)
      | cons d ds =>
          rw [List.flatMap_cons, List.flatMap_cons]
          rcases List.cons_lt_cons_iff.1 h with hlt | ⟨rfl, hrest⟩
          · exact utf8EncodeChar_append_lt hlt _ _
          · exact List.append_left_lt (ih hrest)

theorem utf8_lt_utf8_of_lt {s t : String} (h : s < t) : utf8 s < utf8 t := by
  rw [utf8_eq_flatMap, utf8_eq_flatMap]
  exact flatMap_utf8EncodeChar_lt h

/-- Bytes and code points give texts the same order. -/
theorem utf8_lt_utf8_iff {s t : String} : utf8 s < utf8 t ↔ s < t := by
  refine ⟨fun h => ?_, utf8_lt_utf8_of_lt⟩
  by_cases heq : s = t
  · subst heq
    exact absurd h (List.lt_irrefl _)
  · refine Decidable.byContradiction fun hlt => ?_
    exact List.lt_asymm h (utf8_lt_utf8_of_lt (lt_of_not_lt_of_ne hlt heq))

end FilterQuery
