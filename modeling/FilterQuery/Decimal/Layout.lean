import FilterQuery.Decimal.Shortest

/-!
# The text of a float

Which digits a number has is one question, how they are laid out another. A `Layout` answers the
second: between which powers of ten a number is written positionally, and whether a whole number
keeps a fraction of zero.
-/

namespace FilterQuery.Decimal

structure Layout where
  /-- The least power of ten of a first digit that is written positionally. -/
  plainFrom : Int
  /-- The greatest one. -/
  plainTo : Int
  /-- Whether a whole number ends in `.0`. -/
  wholeFraction : Bool

namespace Layout

/-- Digits with the point after `whole` of them; zeros fill up on either side. -/
def positional (layout : Layout) (digits : List Char) (whole : Int) : List Char :=
  if whole ≤ 0 then '0' :: '.' :: List.replicate (-whole).toNat '0' ++ digits
  else
    let n := whole.toNat
    if digits.length ≤ n then
      digits ++ List.replicate (n - digits.length) '0'
        ++ (if layout.wholeFraction then ['.', '0'] else [])
    else digits.take n ++ '.' :: digits.drop n

/-- One digit before the point, and the power of ten with its sign. -/
def scientific (digits : List Char) (leading : Int) : List Char :=
  let mantissa := match digits with
    | [] => []
    | [d] => [d]
    | d :: rest => d :: '.' :: rest
  mantissa ++ 'e' :: (if leading < 0 then '-' else '+') :: Nat.toDigits 10 leading.natAbs

/-- The text of a finite number. Zero keeps its sign. -/
def finite (layout : Layout) (x : Float) : String :=
  let sign := if 0x8000000000000000 ≤ x.toBits.toNat then ['-'] else []
  let d := shortest x
  let leading := if d.digits = 0 then 0 else d.leading
  let body :=
    if layout.plainFrom ≤ leading && leading ≤ layout.plainTo then
      layout.positional d.text (leading + 1)
    else scientific d.text leading
  String.ofList (sign ++ body)

/-- The text of any number; what is not finite has a name. -/
def write (layout : Layout) (x : Float) : String :=
  if x.isFinite then layout.finite x
  else if x.isNaN then "NaN"
  else if x < 0 then "-inf" else "inf"

end Layout

end FilterQuery.Decimal
