import OsDetection.Fault
import OsDetection.Numeral.Digits
import OsDetection.PointTable

/-!
# Rows of the point table

A row of the point table is a group line whose entries give each test a number of points, such as
`T1(R=30%DF=20)`. Points are 32-bit numbers, blanks around them are ignored, and no test may be
given twice.
-/

namespace OsDetection

open OsDetection.Text OsDetection.Numeral

namespace PointRow

/-- The points that a text spells. -/
def pointsOfText? (cs : List Char) : Option UInt32 :=
  (decimal? (limit 32) (trim cs)).map UInt32.ofNat

/-- Adds an entry to a row. `content` is the line it stands on. -/
def addEntry (line : Nat) (content : String) (probe : Probe) (row : PointRow) (entry : List Char) :
    Except Fault PointRow :=
  match cut? '=' entry with
  | none => .error (.malformedLine line content)
  | some (name, value) =>
    let test := String.ofList name
    if probe.accepts test then
      match pointsOfText? value with
      | none => .error (.badPoints line probe test (String.ofList value))
      | some points =>
        if row.contains test then .error (.repeatedPoints line probe test)
        else .ok (row.insert test points)
    else .error (.unknownTest line probe test)

/-- The row that the body of a group line describes. -/
def ofBody (line : Nat) (content : String) (probe : Probe) (body : List Char) :
    Except Fault PointRow :=
  (split '%' body).foldlM (addEntry line content probe) ∅

end PointRow

end OsDetection
