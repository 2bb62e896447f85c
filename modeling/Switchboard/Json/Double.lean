import Switchboard.Decimal

/-!
Finite binary64 numbers as exact dyadic rationals: a sign, a significand below `2 ^ 53` and an
exponent of two. `nearest` rounds a quotient of natural numbers to such a number, a half going to
the even neighbour, and refuses what would round beyond the largest one. `shortest` finds the
fewest decimal digits that round back to a number, and `Double.render` writes them.
-/
namespace Switchboard.Json

structure Double where
  negative : Bool
  significand : Nat
  exponent : Int
  deriving DecidableEq, Repr

namespace Double

def leastExponent : Int := -1074

def greatestExponent : Int := 971

def zero (negative : Bool) : Double := ⟨negative, 0, leastExponent⟩

def inUnits (num den : Nat) (exponent : Int) : Nat × Nat :=
  if 0 ≤ exponent then (num, den * twoTo exponent.toNat) else (num * twoTo (-exponent).toNat, den)

/-- The nearest natural number to a quotient; a half goes to the even neighbour. -/
def halfEven (num den : Nat) : Nat :=
  let quotient := num / den
  let rest := 2 * (num % den)
  if rest < den then quotient
  else if den < rest then quotient + 1
  else if quotient % 2 = 0 then quotient else quotient + 1

/-- The exponent at which a quotient has 53 bits before the point, or the least one there is. -/
def unitExponent (num den : Nat) : Int :=
  let guess : Int := max leastExponent ((Nat.log2 num : Int) - (Nat.log2 den : Int) - 53)
  let units := inUnits num den guess
  if units.1 / units.2 < twoTo 53 then guess else guess + 1

/-- The number nearest to `num / den`, or `none` when that is infinity. -/
def nearest (negative : Bool) (num den : Nat) : Option Double :=
  if num = 0 then some (zero negative)
  else
    let exponent := unitExponent num den
    let units := inUnits num den exponent
    let rounded := halfEven units.1 units.2
    let carried : Nat × Int :=
      if rounded = twoTo 53 then (twoTo 52, exponent + 1) else (rounded, exponent)
    if greatestExponent < carried.2 then none else some ⟨negative, carried.1, carried.2⟩

def ofNat (n : Nat) : Option Double := nearest false n 1

def quotient (d : Double) : Nat × Nat :=
  if 0 ≤ d.exponent then (d.significand * twoTo d.exponent.toNat, 1)
  else (d.significand, twoTo (-d.exponent).toNat)

def isZero (d : Double) : Bool := d.significand == 0

def negate (d : Double) : Double := { d with negative := !d.negative }

def mul (a b : Double) : Option Double :=
  nearest a.negative (a.quotient.1 * b.quotient.1) (a.quotient.2 * b.quotient.2)

def div (a b : Double) : Option Double :=
  nearest a.negative (a.quotient.1 * b.quotient.2) (a.quotient.2 * b.quotient.1)

def powerOfTen (k : Nat) : Option Double := nearest false (tenTo k) 1

def greatestPower : Nat := 308

def shrink : Nat → Double → Option Double
  | 0, d => some d
  | steps + 1, d =>
    if d.isZero then some d
    else
      match (powerOfTen greatestPower).bind d.div with
      | none => none
      | some smaller => shrink steps smaller

/-- A magnitude times a power of ten, or `none` when that is infinity. The power is itself rounded
first, and one below `10 ^ (-308)` is divided out in steps of that size, each of which rounds. -/
def scale (d : Double) (exponent : Int) : Option Double :=
  if d.isZero then some d
  else if greatestPower < exponent then none
  else if 0 ≤ exponent then (powerOfTen exponent.natAbs).bind d.mul
  else
    let steps := (exponent.natAbs - 1) / greatestPower
    (shrink steps d).bind fun smaller =>
      (powerOfTen (exponent.natAbs - greatestPower * steps)).bind smaller.div

/-! Shortest decimal form. The reals that round to a number form an interval around it; the
grid of decimals with `n` significant digits has a point in the interval only if one of the two
grid neighbours of the number is such a point. -/

/-- Twice the magnitude and twice the ends of the interval that rounds to it, over one
denominator. -/
structure Interval where
  low : Nat
  middle : Nat
  high : Nat
  den : Nat
  closed : Bool

def interval (d : Double) : Interval :=
  let narrow := d.significand = twoTo 52 ∧ leastExponent < d.exponent
  let low := if narrow then 4 * d.significand - 1 else 4 * d.significand - 2
  let units := fun k : Nat =>
    if 0 ≤ d.exponent then k * twoTo d.exponent.toNat else k
  let den := if 0 ≤ d.exponent then 4 else 4 * twoTo (-d.exponent).toNat
  ⟨units low, units (4 * d.significand), units (4 * d.significand + 2), den,
    d.significand % 2 = 0⟩

def Interval.holds (i : Interval) (grid : Nat) (power : Int) : Bool :=
  let point := if 0 ≤ power then grid * tenTo power.toNat * i.den else grid * i.den
  let scaled := fun edge : Nat => if 0 ≤ power then edge else edge * tenTo (-power).toNat
  if i.closed then decide (scaled i.low ≤ point) && decide (point ≤ scaled i.high)
  else decide (scaled i.low < point) && decide (point < scaled i.high)

def leadingPower (num den : Nat) : Int :=
  if den ≤ num then ((Decimal.digits (num / den)).length : Int) - 1
  else go (1 + den.log2) 1
where
  go : Nat → Nat → Int
    | 0, k => -(k : Int)
    | fuel + 1, k => if den ≤ num * tenTo k then -(k : Int) else go fuel (k + 1)

/-- The grid neighbour of a number with its last digit at `power` that is in the interval, the
nearer one if both are. -/
def gridPoint (i : Interval) (power : Int) : Option Nat :=
  let num := if 0 ≤ power then i.middle else i.middle * tenTo (-power).toNat
  let den := if 0 ≤ power then i.den * tenTo power.toNat else i.den
  let below := num / den
  match i.holds below power, i.holds (below + 1) power with
  | true, true => some (halfEven num den)
  | true, false => some below
  | false, true => some (below + 1)
  | false, false => none

def shortest (d : Double) : List Char × Int :=
  let i := d.interval
  let leading := leadingPower i.middle i.den
  go i leading 17 1
where
  go (i : Interval) (leading : Int) : Nat → Nat → List Char × Int
    | 0, _ => (['0'], 0)
    | fuel + 1, count =>
      let power := leading - (count : Int) + 1
      match gridPoint i power with
      | none => go i leading fuel (count + 1)
      | some grid =>
        let digits := Decimal.digits grid
        (digits, power + (digits.length : Int) - 1)

structure Layout where
  leastPositional : Int
  greatestPositional : Int

def layout : Layout := ⟨-5, 15⟩

def zeros (n : Int) : List Char := List.replicate n.toNat '0'

def dropTrailingZeros (cs : List Char) : List Char :=
  (cs.reverse.dropWhile (· == '0')).reverse

/-- A digit run whose first digit stands at a power of ten. An exponent always has its sign, and no
leading zero. -/
def place (l : Layout) (digits : List Char) (leading : Int) : List Char :=
  let significant := dropTrailingZeros digits
  let count : Int := significant.length
  if l.leastPositional ≤ leading ∧ leading ≤ l.greatestPositional then
    if count - 1 ≤ leading then significant ++ zeros (leading - (count - 1)) ++ ['.', '0']
    else if 0 ≤ leading then
      significant.take (leading.toNat + 1) ++ '.' :: significant.drop (leading.toNat + 1)
    else '0' :: '.' :: zeros (-leading - 1) ++ significant
  else
    let fraction := significant.drop 1
    significant.take 1 ++ (if fraction.isEmpty then [] else '.' :: fraction)
      ++ 'e' :: (if 0 ≤ leading then '+' else '-')
      :: Decimal.digits leading.natAbs

def render (d : Double) : List Char :=
  let sign := if d.negative then ['-'] else []
  if d.isZero then sign ++ ['0', '.', '0']
  else
    let form := shortest d
    sign ++ place layout form.1 form.2

end Double
end Switchboard.Json
