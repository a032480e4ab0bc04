import OsDetection.Json.Value
import OsDetection.Numeral.Digits

/-!
# The values of JSON numbers

An integer field takes a number without point or exponent, by its value. A binary number is read
with the arithmetic of its format: of the digits, those are kept that a 64-bit number can hold, and
the number they spell is then multiplied or divided by a power of ten, with a rounding at each step.
-/

namespace OsDetection.Json.Number

open OsDetection.Numeral

/-- The digits that a text spells, other characters left out. -/
def digitValues (cs : List Char) : List Nat :=
  cs.filterMap (digitBelow? 10)

/-- The natural number below `limit` that is written without point and exponent. -/
def natural? (limit : Nat) (n : Number) : Option Nat :=
  match n.negative, n.fraction, n.exponent with
  | false, none, none => ofText? 10 limit n.whole
  | _, _, _ => none

/-- A 64-bit number and the power of ten to multiply it by. -/
structure Scaled where
  significand : Nat
  exponent : Int
  deriving DecidableEq, Repr

/-- Reads digits into the significand while it has room for the next; gives the digits it has none
for. -/
def Scaled.take (shift : Int) (s : Scaled) : List Nat → Scaled × List Nat
  | [] => (s, [])
  | d :: ds =>
    let next := s.significand * 10 + d
    if next < limit 64 then Scaled.take shift ⟨next, s.exponent + shift⟩ ds else (s, d :: ds)

/-- The digits of a number, without its own exponent. Digits before the point that find no room
each count for a power of ten, those after it are dropped. -/
def scaled (n : Number) : Scaled :=
  let (s, left) := Scaled.take 0 ⟨0, 0⟩ (digitValues n.whole)
  let s : Scaled := ⟨s.significand, left.length⟩
  (Scaled.take (-1) s (digitValues (n.fraction.getD []))).1

/-- The binary number nearest to a power of ten. -/
def powerOfTen (n : Nat) : Binary64 := .ofNat (Nat.pow 10 n)

/-- A binary number divided by a power of ten, in steps that the format can hold. -/
def divided (x : Binary64) (n : Nat) : Binary64 :=
  if n ≤ 308 then x / powerOfTen n
  else if x.isZero then x
  else divided (x / powerOfTen 308) (n - 308)
termination_by n

/-- A binary number multiplied by a power of ten, unless that is too large for the format. -/
def multiplied? (x : Binary64) (n : Nat) : Option Binary64 :=
  if x.isZero then some x
  else if n ≤ 308 then
    let y := x * powerOfTen n
    if y.isFinite then some y else none
  else none

/-- The magnitude of a number. An exponent beyond the 31-bit numbers makes it zero or too large. -/
def magnitude? (n : Number) : Option Binary64 :=
  let s := n.scaled
  let x := Binary64.ofNat s.significand
  let exponent : Int :=
    match n.exponent with
    | none => 0
    | some (negative, ds) =>
      let e : Int := ofDigits 10 (digitValues ds)
      if negative then -e else e
  if limit 31 ≤ exponent.natAbs then
    if x.isZero ∨ exponent < 0 then some .zero else none
  else
    let exponent := s.exponent + exponent
    if exponent < 0 then some (divided x exponent.natAbs) else multiplied? x exponent.toNat

/-- The binary number that a number is read as. -/
def binary64? (n : Number) : Option Binary64 :=
  n.magnitude?.map fun x => if n.negative then -x else x

end OsDetection.Json.Number
