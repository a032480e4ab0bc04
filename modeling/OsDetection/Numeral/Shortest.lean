import OsDetection.Numeral.Binary64

/-!
# Shortest decimals

The decimal with the fewest digits that reads back as a given magnitude. The reals that round to a
magnitude form an interval around it, whose ends belong to it exactly if its pattern is even. On
the multiples of a power of ten, only the two neighbours of the value have to be tried: if any
multiple lies in the interval then one of these does. `Decimal.shortest` takes the coarsest power
of ten that has one there, and of two the nearer, a tie going to the even digit.
-/

namespace OsDetection.Numeral

/-- The number `digits * 10 ^ exponent`. -/
structure Decimal where
  digits : Nat
  exponent : Int
  deriving DecidableEq, Repr

namespace Decimal

/-- Numerator and denominator of a power of ten. -/
def powerOfTen (exponent : Int) : Nat × Nat :=
  (Nat.pow 10 exponent.toNat, Nat.pow 10 (-exponent).toNat)

/-- Whether a decimal rounds to the magnitude. The comparison is made in quarters of a unit, in
which the ends of the interval are whole numbers. -/
def roundsTo (magnitude : Nat) (d : Decimal) : Bool :=
  let k := Binary64.scale magnitude
  let value := 4 * Binary64.units magnitude
  let above := 2 <<< k
  let below := if Binary64.significand magnitude = 1 <<< 52 ∧ 0 < k then 1 <<< k else above
  let (num, den) := powerOfTen d.exponent
  let point := 4 * Binary64.one * (d.digits * num)
  if magnitude % 2 = 0 then (value - below) * den ≤ point && point ≤ (value + above) * den
  else (value - below) * den < point && point < (value + above) * den

/-- The better neighbour of the magnitude among the multiples of a power of ten, if one of the two
rounds to it. -/
def neighbour? (magnitude : Nat) (exponent : Int) : Option Decimal :=
  let (num, den) := powerOfTen exponent
  let value := Binary64.units magnitude * den
  let step := Binary64.one * num
  let lower : Decimal := ⟨value / step, exponent⟩
  let upper : Decimal := ⟨value / step + 1, exponent⟩
  match roundsTo magnitude lower, roundsTo magnitude upper with
  | true, false => some lower
  | false, true => some upper
  | true, true => some ⟨roundDiv value step, exponent⟩
  | false, false => none

/-- The shortest decimal that reads back as a magnitude other than zero. Every power of ten that
a binary number can need lies between the two ends of the search. -/
def shortest (magnitude : Nat) : Decimal :=
  ((List.range 700).findSome? fun (i : Nat) => neighbour? magnitude (320 - (i : Int))).getD ⟨0, 0⟩

end Decimal

end OsDetection.Numeral
