import OsDetection.Text.Blank

/-!
# Reading numbers

Two spellings of natural numbers occur in fingerprints. Values and the bounds of ranges are
hexadecimal: surrounding blanks, a plus sign and a `0x` mark are allowed (`hexadecimal?`). Points
and counts are decimal, with a plus sign allowed (`decimal?`). Either is refused by its value, not
its length: leading zeros never make a number too large.
-/

namespace OsDetection.Numeral

open OsDetection.Text

/-- The first number that takes more than so many bits. -/
def limit (bits : Nat) : Nat := 1 <<< bits

/-- The value of a digit, letters of either case standing for ten and more. -/
def digit? (c : Char) : Option Nat :=
  if '0' ≤ c ∧ c ≤ '9' then some (c.toNat - '0'.toNat)
  else if 'A' ≤ c ∧ c ≤ 'Z' then some (c.toNat - 'A'.toNat + 10)
  else if 'a' ≤ c ∧ c ≤ 'z' then some (c.toNat - 'a'.toNat + 10)
  else none

/-- The value of a digit below the base. -/
def digitBelow? (base : Nat) (c : Char) : Option Nat :=
  (digit? c).filter (· < base)

theorem digitBelow?_eq_some_iff {base d : Nat} {c : Char} :
    digitBelow? base c = some d ↔ digit? c = some d ∧ d < base := by
  simp [digitBelow?, Option.filter_eq_some_iff]

/-- The number that digits spell, the most significant first. -/
def ofDigits (base : Nat) (ds : List Nat) : Nat :=
  ds.foldl (fun n d => n * base + d) 0

@[simp] theorem ofDigits_nil (base : Nat) : ofDigits base [] = 0 := rfl

@[simp] theorem ofDigits_concat (base : Nat) (ds : List Nat) (d : Nat) :
    ofDigits base (ds ++ [d]) = ofDigits base ds * base + d := by
  simp [ofDigits]

/-- The number below `limit` that a non-empty text of digits spells. -/
def ofText? (base limit : Nat) (cs : List Char) : Option Nat :=
  if cs = [] then none
  else ((cs.mapM (digitBelow? base)).map (ofDigits base)).filter (· < limit)

/-- Whatever is read lies below the limit. -/
theorem lt_of_ofText? {base limit n : Nat} {cs : List Char}
    (h : ofText? base limit cs = some n) : n < limit := by
  unfold ofText? at h
  split at h
  · simp at h
  · simpa using (Option.filter_eq_some_iff.1 h).2

/-- The text without the plus sign it may begin with. -/
def dropPlus : List Char → List Char
  | '+' :: rest => rest
  | cs => cs

/-- The text without the hexadecimal mark, `0x` or `0X`, it may begin with. -/
def dropHexMark : List Char → List Char
  | '0' :: 'x' :: rest => rest
  | '0' :: 'X' :: rest => rest
  | cs => cs

/-- The 64-bit number that a text spells in hexadecimal. -/
def hexadecimal? (cs : List Char) : Option Nat :=
  ofText? 16 (limit 64) (dropHexMark (dropPlus (trim cs)))

/-- The number below `limit` that a text spells in decimal. -/
def decimal? (limit : Nat) (cs : List Char) : Option Nat :=
  ofText? 10 limit (dropPlus cs)

theorem lt_of_hexadecimal? {cs : List Char} {n : Nat} (h : hexadecimal? cs = some n) :
    n < limit 64 :=
  lt_of_ofText? h

end OsDetection.Numeral
