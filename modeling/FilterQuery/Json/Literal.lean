import FilterQuery.Json.Basic

/-!
# The value of a number literal

A literal is its sign, the digits before and after the point, and the power of ten behind the `e`.
Digits are gathered into one 64-bit significand for as long as they fit; the power of ten then scales
its float in a single step, or in steps of `1e308` towards zero. This is not the correctly rounded
reading of more than nineteen digits or of extreme powers, but the one every number is read by.
-/

namespace FilterQuery

/-- A number as it is written. A literal without fraction and exponent is a whole number. -/
structure Literal where
  negative : Bool
  whole : List Nat
  fraction : Option (List Nat)
  exponent : Option Int

namespace Literal

/-- Adds digits to a significand while 64 bits hold it; also the digits that were left. -/
def gather (significand : Nat) : List Nat → Nat × List Nat
  | [] => (significand, [])
  | d :: rest =>
    let next := significand * 10 + d
    if next < 0x10000000000000000 then gather next rest else (significand, d :: rest)

/-- Divides by a power of ten, `1e308` at a time. -/
def scaleDown (x : Float) (power : Nat) : Float :=
  if power ≤ 308 then x / Float.ofScientific 1 false power
  else if x == 0 then x
  else scaleDown (x / 1e308) (power - 308)
termination_by power
decreasing_by omega

/-- The significand times a power of ten; none beyond the finite floats. -/
def scale? (significand : Nat) (power : Int) : Option Float :=
  let x := significand.toUInt64.toFloat
  if power < 0 then some (scaleDown x power.natAbs)
  else if power ≤ 308 then
    let y := x * Float.ofScientific 1 false power.toNat
    if y.isFinite then some y else none
  else if x == 0 then some x else none

def float? (l : Literal) : Option Float :=
  let (whole, dropped) := gather 0 l.whole
  let (significand, unread) := gather whole (l.fraction.getD [])
  let places := (l.fraction.getD []).length - unread.length
  let power := (dropped.length : Int) - places + l.exponent.getD 0
  (scale? significand power).map fun x => if l.negative then -x else x

/-- The number of a literal; none if it is out of range. A whole number that 64 bits do not hold is a
float, and so is minus zero. -/
def number? (l : Literal) : Option Number :=
  match l.fraction, l.exponent, gather 0 l.whole with
  | none, none, (n, []) =>
    if !l.negative then some (.ofUInt64 n.toUInt64)
    else if n == 0 || 0x8000000000000000 < n then Number.ofFloat? (-n.toUInt64.toFloat)
    else some (.int (Int64.ofInt (-n)))
  | _, _, _ => l.float?.bind Number.ofFloat?

end Literal

end FilterQuery
