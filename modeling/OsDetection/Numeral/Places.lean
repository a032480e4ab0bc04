import OsDetection.Numeral.Binary64

/-!
# Fixed decimal places

The decimal text of a binary number with a given number of places after the point: the exact value
is rounded once, a tie to the even digit. Every digit before the point is written out, and a
negative number keeps its sign even where the digits are all zero.
-/

namespace OsDetection.Numeral

/-- A natural number of `10 ^ -places` as a decimal text. -/
def placesText (places n : Nat) : String :=
  let digits := (toString (n % Nat.pow 10 places)).toList
  toString (n / Nat.pow 10 places) ++
    String.ofList ('.' :: List.replicate (places - digits.length) '0' ++ digits)

/-- A binary number with `places` digits after the point. -/
def Binary64.fixed (places : Nat) (x : Binary64) : String :=
  let rounded := roundDiv (units x.magnitude * Nat.pow 10 places) one
  (if x.negative then "-" else "") ++ placesText places rounded

end OsDetection.Numeral
