/-!
# Shortest decimals

A binary floating-point number stands for an interval of reals: all those that round to it. Of the
decimals in that interval `shortest?` picks one with the fewest digits, and of several the nearest to
the number itself. All of it is exact arithmetic on natural numbers.
-/

namespace FilterQuery.Decimal

structure Value where
  digits : Nat
  exponent : Int
deriving DecidableEq

namespace Value

/-- The number written without zeros at its end. The fuel bounds the number of zeros. -/
def withoutTrailingZeros : Nat → Value → Value
  | 0, d => d
  | fuel + 1, d =>
    if d.digits % 10 = 0 && d.digits != 0 then
      withoutTrailingZeros fuel ⟨d.digits / 10, d.exponent + 1⟩
    else d

def text (d : Value) : List Char := Nat.toDigits 10 d.digits

/-- The power of ten that the first digit counts. -/
def leading (d : Value) : Int := d.exponent + d.text.length - 1

end Value

/-- The reals that round to one binary number. `low`, `value` and `high` are numerators over `den`;
the ends belong to the interval if `closed`. -/
structure RoundingInterval where
  low : Nat
  value : Nat
  high : Nat
  den : Nat
  closed : Bool

/-- The interval of `m * 2 ^ q`. Halfway to a neighbour is half a unit of `m`, and a quarter on the
lower side of a power of two, where the neighbour below lies nearer. The ends round to the even
`m`. -/
def RoundingInterval.ofBinary (m : Nat) (q : Int) (powerOfTwo : Bool) : RoundingInterval :=
  let shift : Nat := (q - 2).toNat
  let scale := 1 <<< shift
  { low := (4 * m - if powerOfTwo then 1 else 2) * scale
    value := 4 * m * scale
    high := (4 * m + 2) * scale
    den := 1 <<< (2 - q).toNat
    closed := m % 2 == 0 }

/-- The interval of a positive finite number, from the two fields of its bits. -/
def RoundingInterval.ofFloat (x : Float) : RoundingInterval :=
  let bits := x.toBits.toNat % 0x8000000000000000
  let field : Nat := bits / 0x10000000000000
  let fraction := bits % 0x10000000000000
  if field = 0 then ofBinary fraction (-1074) false
  else ofBinary (0x10000000000000 + fraction) (field - 1075) (fraction == 0 && field != 1)

namespace RoundingInterval

variable (i : RoundingInterval)

/-- The least `k` from `k` on with `1 ≤ num * 10 ^ k / den`, tried `fuel` times. -/
def firstPower (den : Nat) : Nat → Nat → Nat → Nat
  | 0, k, _ => k
  | fuel + 1, k, num => if den ≤ num then k else firstPower den fuel (k + 1) (num * 10)

/-- The power of ten of the value's first digit. -/
def leading : Int :=
  if i.den ≤ i.value then
    let whole : Nat := i.value / i.den
    (Nat.toDigits 10 whole).length - 1
  else -(firstPower i.den 400 0 i.value : Int)

/-- `c * 10 ^ e` and the three numerators over one common denominator. -/
def aligned (c : Nat) (e : Int) : Nat × Nat × Nat × Nat :=
  let up := Nat.pow 10 e.toNat
  let down := Nat.pow 10 (-e).toNat
  (c * up * i.den, i.low * down, i.value * down, i.high * down)

/-- Whether `c * 10 ^ e` rounds to the number. -/
def holds (c : Nat) (e : Int) : Bool :=
  let (n, low, _, high) := i.aligned c e
  if i.closed then low ≤ n && n ≤ high else low < n && n < high

/-- Twice the value's distance from the middle of `c * 10 ^ e` and the next point of the grid:
whether the value lies below, on or above that middle. -/
def compareMiddle (c : Nat) (e : Int) : Ordering :=
  let (n, _, value, _) := i.aligned c e
  let (n', _, _, _) := i.aligned (c + 1) e
  compare (2 * value) (n + n')

/-- The point nearest to the value among the multiples of `10 ^ e` that round to the number. The only
candidates are the two neighbours of the value; a tie goes to the even one. -/
def onGrid? (e : Int) : Option Value :=
  let c := (i.value * Nat.pow 10 (-e).toNat) / (i.den * Nat.pow 10 e.toNat)
  match i.holds c e, i.holds (c + 1) e with
  | true, true =>
    match i.compareMiddle c e with
    | .lt => some ⟨c, e⟩
    | .gt => some ⟨c + 1, e⟩
    | .eq => some ⟨if c % 2 = 0 then c else c + 1, e⟩
  | true, false => some ⟨c, e⟩
  | false, true => some ⟨c + 1, e⟩
  | false, false => none

/-- The first hit among the grids with `count`, `count + 1`, … digits. -/
def shortestFrom (leading : Int) : Nat → Nat → Option Value
  | 0, _ => none
  | fuel + 1, count =>
    match i.onGrid? (leading - (count - 1 : Int)) with
    | some d => some (d.withoutTrailingZeros 20)
    | none => shortestFrom leading fuel (count + 1)

/-- A decimal of fewest digits that rounds to the number. Seventeen digits always suffice. -/
def shortest? : Option Value := i.shortestFrom i.leading 17 1

end RoundingInterval

/-- The shortest decimal of the magnitude of a finite number. -/
def shortest (x : Float) : Value :=
  if x.toBits.toNat % 0x8000000000000000 = 0 then ⟨0, 0⟩
  else ((RoundingInterval.ofFloat x).shortest?).getD ⟨0, 0⟩

end FilterQuery.Decimal
