/-!
# Tables of code points

Tables are kept as text: code points in hexadecimal, one entry between blanks. This module reads them
and looks things up in them.
-/

namespace FilterQuery.Unicode

/-- The value of upper-case hexadecimal digits. -/
def hexNat (cs : List Char) : Nat :=
  cs.foldl (fun n c => n * 16 + (if c.isDigit then c.toNat - 48 else c.toNat - 55)) 0

def words (lines : List String) : List (List Char) :=
  (lines.flatMap fun line => (line.splitOn " ").map String.toList).filter (!·.isEmpty)

/-- Code points from the first to the last of a range. -/
structure Range where
  first : Nat
  last : Nat

/-- A range: one code point, or two with a dash between them. -/
def Range.ofWord (word : List Char) : Range :=
  match word.splitOn '-' with
  | [single] => ⟨hexNat single, hexNat single⟩
  | first :: last :: _ => ⟨hexNat first, hexNat last⟩
  | [] => ⟨1, 0⟩

/-- Whether a code point lies in one of the ranges. -/
def inRanges (ranges : List Range) (n : Nat) : Bool :=
  ranges.any fun r => r.first ≤ n && n ≤ r.last

def ranges (lines : List String) : List Range := (words lines).map Range.ofWord

/-- The last element of a sorted array whose key is at most `n`, between two bounds. -/
def lastAtMost? {α : Type} (table : Array α) (key : α → Nat) (n : Nat) (low high : Nat) :
    Option α :=
  if low + 1 < high then
    let mid := (low + high) / 2
    match table[mid]? with
    | some x => if key x ≤ n then lastAtMost? table key n mid high
                else lastAtMost? table key n low mid
    | none => none
  else (table[low]?).filter fun x => key x ≤ n
termination_by high - low
decreasing_by all_goals omega

end FilterQuery.Unicode
