/-!
# Reading numerals

Whole numbers and floats from their digits. A float is the one nearest to what the digits say.
-/

namespace FilterQuery.Decimal

/-- The digits of a text that has nothing else, and at least one. -/
def digitsOf? (cs : List Char) : Option (List Nat) :=
  if cs.isEmpty || !cs.all Char.isDigit then none
  else some (cs.map fun c => c.toNat - '0'.toNat)

def natural (digits : List Nat) : Nat := digits.foldl (fun n d => 10 * n + d) 0

/-- A sign and what follows it; true is minus. -/
def signOf (cs : List Char) : Bool × List Char :=
  match cs with
  | '-' :: cs => (true, cs)
  | '+' :: cs => (false, cs)
  | cs => (false, cs)

def integerOf? (cs : List Char) : Option Int :=
  let (negative, cs) := signOf cs
  (digitsOf? cs).map fun ds => if negative then -(natural ds : Int) else natural ds

/-- Splits a text before the first of some characters. -/
def splitBefore (p : Char → Bool) (cs : List Char) : List Char × List Char :=
  (cs.takeWhile fun c => !p c, cs.dropWhile fun c => !p c)

/-- A number with a point or an exponent, either of which may be absent. -/
def floatOf? (cs : List Char) : Option Float := do
  let (negative, cs) := signOf cs
  let (mantissa, exponent) := splitBefore (fun c => c == 'e' || c == 'E') cs
  let (whole, places) := splitBefore (· == '.') mantissa
  let digits ← digitsOf? (whole ++ places.drop 1)
  let power ← match exponent with
    | [] => some 0
    | _ :: ds => integerOf? ds
  let power := power - (places.drop 1).length
  let x := Float.ofScientific (natural digits) (power < 0) power.natAbs
  return if negative then -x else x

end FilterQuery.Decimal
