/-!
# Binary floating-point numbers

The finite numbers of the IEEE 754 format binary64, with exact arithmetic underneath. Magnitudes in
increasing order are numbered from zero upward, and a magnitude's number is also its bit pattern;
`units` is its value in multiples of `2 ^ -1074`. Every operation takes the exact quotient of two
natural numbers to the nearest magnitude, a tie to the even one (`nearest`).
-/

namespace OsDetection.Numeral

/-- The quotient rounded to the nearest natural number, a tie to the even one. -/
def roundDiv (num den : Nat) : Nat :=
  let q := num / den
  let r := num % den
  if 2 * r < den then q
  else if den < 2 * r then q + 1
  else if q % 2 = 0 then q
  else q + 1

/-- A division without remainder is not rounded. -/
theorem roundDiv_mul_left {den : Nat} (h : 0 < den) (n : Nat) : roundDiv (den * n) den = n := by
  simp [roundDiv, h]

/-- A sign and the bit pattern of a magnitude. -/
structure Binary64 where
  negative : Bool
  magnitude : Nat
  deriving DecidableEq, Repr

namespace Binary64

/-- The pattern above every finite magnitude. -/
def infinity : Nat := 2047 <<< 52

/-- The magnitude's distance from the next one is `2 ^ scale` units. -/
def scale (magnitude : Nat) : Nat := (magnitude >>> 52) - 1

/-- The magnitude in steps of `2 ^ scale` units. -/
def significand (magnitude : Nat) : Nat := magnitude - (scale magnitude <<< 52)

/-- The value of a magnitude in multiples of `2 ^ -1074`. -/
def units (magnitude : Nat) : Nat := significand magnitude <<< scale magnitude

/-- The number of units in one. -/
def one : Nat := 1 <<< 1074

/-- The magnitude nearest to a quotient, a tie going to the even pattern. A quotient too large for
the format gives `infinity`. -/
def nearest (num den : Nat) : Nat :=
  let k := (num * one / den).log2 - 52
  min infinity ((k <<< 52) + roundDiv (num * one) (den <<< k))

/-- The non-negative number nearest to a natural number. -/
def ofNat (n : Nat) : Binary64 := ⟨false, nearest n 1⟩

def zero : Binary64 := ⟨false, 0⟩

def isZero (x : Binary64) : Bool := x.magnitude = 0

def isFinite (x : Binary64) : Bool := x.magnitude < infinity

def neg (x : Binary64) : Binary64 := ⟨!x.negative, x.magnitude⟩

def mul (x y : Binary64) : Binary64 :=
  ⟨x.negative ^^ y.negative, nearest (units x.magnitude * units y.magnitude) (one * one)⟩

/-- The quotient of two numbers, the divisor being other than zero. -/
def div (x y : Binary64) : Binary64 :=
  ⟨x.negative ^^ y.negative, nearest (units x.magnitude) (units y.magnitude)⟩

instance : Neg Binary64 := ⟨neg⟩

instance : Mul Binary64 := ⟨mul⟩

instance : Div Binary64 := ⟨div⟩

/-- The 64-bit pattern of a number. -/
def toBits (x : Binary64) : Nat :=
  (if x.negative then 1 <<< 63 else 0) + x.magnitude

end Binary64

end OsDetection.Numeral
