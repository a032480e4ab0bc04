import Std.Data.ExtTreeMap

/-!
# Probes and their tests

A scan sends a fixed set of probes, and what it learns from each is reported as a group of named
tests. This module is the catalogue of both: the probes in their canonical order, the tests each
probe reports, and the few test names that are tolerated in every group. A probe is ordered by its
place in the catalogue, so a map over probes lists them canonically.
-/

namespace OsDetection

/-- A probe, named for its group of tests. `scan` describes the scan itself. -/
inductive Probe where
  | scan | seq | ops | win | ecn | t1 | t2 | t3 | t4 | t5 | t6 | t7 | u1 | ie
  deriving DecidableEq, Repr, Inhabited

namespace Probe

/-- Every probe, in canonical order. -/
def all : List Probe :=
  [scan, seq, ops, win, ecn, t1, t2, t3, t4, t5, t6, t7, u1, ie]

theorem mem_all (p : Probe) : p ∈ all := by
  cases p <;> decide

/-- The place of a probe in the catalogue. -/
def position (p : Probe) : Nat :=
  all.idxOf p

theorem getElem?_position (p : Probe) : all[p.position]? = some p := by
  cases p <;> rfl

theorem position_injective {p q : Probe} (h : p.position = q.position) : p = q := by
  have := getElem?_position p
  rw [h, getElem?_position] at this
  exact (Option.some.inj this).symm

instance : Ord Probe := ⟨compareOn position⟩

instance : Std.TransOrd Probe := inferInstanceAs (Std.TransCmp (compareOn position))

instance : Std.LawfulEqOrd Probe where
  eq_of_compare h := position_injective (Std.LawfulEqOrd.eq_of_compare h)

/-- The name of a probe's group of tests. -/
def name : Probe → String
  | scan => "SCAN"
  | seq => "SEQ"
  | ops => "OPS"
  | win => "WIN"
  | ecn => "ECN"
  | t1 => "T1"
  | t2 => "T2"
  | t3 => "T3"
  | t4 => "T4"
  | t5 => "T5"
  | t6 => "T6"
  | t7 => "T7"
  | u1 => "U1"
  | ie => "IE"

instance : ToString Probe := ⟨name⟩

/-- The probe of a name, which is spelled in capitals. -/
def ofName? (name : String) : Option Probe :=
  all.find? (·.name = name)

@[simp] theorem ofName?_name (p : Probe) : ofName? p.name = some p := by
  cases p <;> decide

/-- A name determines its probe. -/
theorem ofName?_eq_some_iff {name : String} {p : Probe} :
    ofName? name = some p ↔ p.name = name := by
  constructor
  · intro h
    simpa using List.find?_some h
  · rintro rfl
    exact ofName?_name p

/-- Only the description of the scan itself carries no evidence about the system. -/
def isInformational (p : Probe) : Bool :=
  p = scan

theorem isInformational_iff {p : Probe} : p.isInformational ↔ p = scan :=
  decide_eq_true_iff

/-- The probes whose answers count, in canonical order. -/
def scored : List Probe :=
  all.filter (!·.isInformational)

theorem mem_scored {p : Probe} : p ∈ scored ↔ p ≠ scan := by
  cases p <;> decide

/-- The tests that a probe's group defines, in canonical order. -/
def tests : Probe → List String
  | scan => ["V", "E", "D", "OT", "CT", "CU", "PV", "DS", "DC", "G", "TM", "P", "M"]
  | seq => ["SP", "GCD", "ISR", "TI", "CI", "II", "SS", "TS"]
  | ops => ["O1", "O2", "O3", "O4", "O5", "O6"]
  | win => ["W1", "W2", "W3", "W4", "W5", "W6"]
  | ecn => ["R", "DF", "T", "TG", "W", "O", "CC", "Q"]
  | t1 => ["R", "DF", "T", "TG", "S", "A", "F", "RD", "Q"]
  | t2 | t3 | t4 | t5 | t6 | t7 => ["R", "DF", "T", "TG", "W", "S", "A", "F", "O", "RD", "Q"]
  | u1 => ["R", "DF", "T", "TG", "IPL", "UN", "RIPL", "RID", "RIPCK", "RUCK", "RUD"]
  | ie => ["R", "DFI", "T", "TG", "CD"]

/-- Test names found in every group of real databases although no probe defines them. -/
def tolerated : List String := ["W0", "W7", "W8", "W9"]

/-- Whether a test may appear in the group of a probe. -/
def accepts (p : Probe) (test : String) : Bool :=
  p.tests.contains test || tolerated.contains test

end Probe

/-- A map from probes, listed in canonical order. -/
abbrev ProbeMap (α : Type) := Std.ExtTreeMap Probe α

/-- A map from test names, listed in the order of their characters' code points. -/
abbrev TestMap (α : Type) := Std.ExtTreeMap String α

end OsDetection
