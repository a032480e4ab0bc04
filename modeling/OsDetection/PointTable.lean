import OsDetection.Probe

/-!
# Points

A database awards points for matching tests. The point table has a row for some of the probes, and
a row gives the points of some of its tests. A row's total is what a fingerprint can earn with one
probe, and `most` is what it can earn altogether.
-/

namespace OsDetection

/-- The points of each test of one probe. -/
abbrev PointRow := TestMap UInt32

namespace PointRow

/-- What all the tests of a row are worth together. -/
def total (row : PointRow) : Nat :=
  (row.toList.map fun entry => entry.2.toNat).foldr (· + ·) 0

end PointRow

/-- The points of each test, by probe. -/
structure PointTable where
  rows : ProbeMap PointRow
  deriving DecidableEq

namespace PointTable

/-- The table without a row. -/
def empty : PointTable := ⟨∅⟩

/-- The table with a row put in place of the one that the probe may have had. -/
def insert (t : PointTable) (probe : Probe) (row : PointRow) : PointTable :=
  ⟨t.rows.insert probe row⟩

/-- The row of a probe. -/
def row? (t : PointTable) (probe : Probe) : Option PointRow := t.rows[probe]?

def contains (t : PointTable) (probe : Probe) : Bool := t.rows.contains probe

/-- The probes that have a row, in canonical order. -/
def probes (t : PointTable) : List Probe := t.rows.keys

/-- The points of a test. -/
def points? (t : PointTable) (probe : Probe) (test : String) : Option UInt32 := do
  let row ← t.row? probe
  row[test]?

/-- What the tests of a probe are worth together; nothing without a row. -/
def total (t : PointTable) (probe : Probe) : Nat :=
  match t.row? probe with
  | some row => row.total
  | none => 0

/-- The most that a fingerprint can earn. -/
def most (t : PointTable) : Nat :=
  (t.rows.toList.map fun entry => entry.2.total).foldr (· + ·) 0

@[simp] theorem row?_empty (probe : Probe) : empty.row? probe = none := by
  simp [row?, empty]

theorem row?_insert (t : PointTable) (probe other : Probe) (row : PointRow) :
    (t.insert probe row).row? other = if probe = other then some row else t.row? other := by
  simp [row?, insert, Std.ExtTreeMap.getElem?_insert]

@[simp] theorem contains_empty (probe : Probe) : empty.contains probe = false := by
  simp [contains, empty]

theorem contains_insert (t : PointTable) (probe other : Probe) (row : PointRow) :
    (t.insert probe row).contains other ↔ probe = other ∨ t.contains other := by
  simp [contains, insert, Std.ExtTreeMap.contains_insert]

end PointTable

end OsDetection
