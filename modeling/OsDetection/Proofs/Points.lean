import Mathlib.Algebra.BigOperators.Group.Finset.Piecewise
import Mathlib.Algebra.GroupWithZero.Nat
import Mathlib.Algebra.Order.BigOperators.Group.Finset
import Mathlib.Algebra.Order.BigOperators.Group.List
import OsDetection.PointTable
import OsDetection.Proofs.Catalogue
import OsDetection.Proofs.Database.Legal

/-!
# Sums of points

The entries of a point table are the tests that have points (`PointTable.mem_entries_iff`), and its
totals are sums of entries (`PointTable.most_eq_worth_entries`, `PointTable.total_eq_worth_filter`).
Distinct probes are worth no more together than the whole table (`PointTable.sum_total_le_most`),
and distinct tests of a probe no more than the probe (`PointTable.sum_testWorth_le_total`). A legal
table has few entries of 32 bits, so that adding them up in 64-bit words gives the same
(`PointTable.Legal.toNat_wordTotal`, `PointTable.Legal.toNat_wordMost`).
-/

namespace OsDetection

/-! ## Sums over lists and maps -/

/-- A sum over lists in a row is the sum of the sums over each. -/
theorem sum_map_flatMap {α β : Type} (f : α → List β) (w : β → Nat) (as : List α) :
    ((as.flatMap f).map w).sum = (as.map fun a => ((f a).map w).sum).sum := by
  induction as with
  | nil => rfl
  | cons a as ih => simp [ih]

/-- A sum of bounded numbers is bounded by their number times the bound. -/
theorem sum_map_le_length_mul {α : Type} {w : α → Nat} {n : Nat} {as : List α}
    (h : ∀ a ∈ as, w a ≤ n) : (as.map w).sum ≤ as.length * n := by
  rw [← List.length_map w, ← Nat.nsmul_eq_mul]
  refine List.sum_le_card_nsmul _ _ fun k hk => ?_
  obtain ⟨a, ha, rfl⟩ := List.mem_map.1 hk
  exact h a ha

section
variable {κ α : Type} [Ord κ] [Std.TransOrd κ] [Std.LawfulEqOrd κ]
  (m : Std.ExtTreeMap κ α) (w : α → Nat)

/-- Going through the keys of a map and going through its entries comes to the same. -/
theorem sum_map_keys : (m.keys.map fun k => (m[k]?.map w).getD 0).sum =
    (m.toList.map fun entry => w entry.2).sum := by
  rw [← Std.ExtTreeMap.map_fst_toList_eq_keys, List.map_map]
  refine congrArg List.sum (List.map_congr_left fun entry hentry => ?_)
  have h := Std.ExtTreeMap.mem_toList_iff_getElem?_eq_some.1 hentry
  simp [h]

/-- Distinct keys are worth no more than all entries together. -/
theorem sum_map_le_of_nodup [DecidableEq κ] {ks : List κ} (h : ks.Nodup) :
    (ks.map fun k => (m[k]?.map w).getD 0).sum ≤ (m.toList.map fun entry => w entry.2).sum := by
  rw [← sum_map_keys, ← List.sum_toFinset _ h, ← List.sum_toFinset _ Std.ExtTreeMap.nodup_keys]
  refine Finset.sum_le_sum_of_ne_zero fun k _ hk => ?_
  rw [List.mem_toFinset, Std.ExtTreeMap.mem_keys, ← Std.ExtTreeMap.isSome_getElem?_iff_mem]
  by_contra hnone
  simp_all

end

/-! ## The entries of a table -/

namespace PointTable

/-- Every test that has points, with its probe and the points. -/
def entries (t : PointTable) : List (Probe × String × UInt32) :=
  t.rows.toList.flatMap fun row => row.2.toList.map fun entry => (row.1, entry)

/-- What a test is worth; nothing if it has no points. -/
def testWorth (t : PointTable) (p : Probe) (test : String) : Nat :=
  ((t.points? p test).map UInt32.toNat).getD 0

/-- What entries are worth together. -/
def worth (es : List (Probe × String × UInt32)) : Nat := (es.map fun e => e.2.2.toNat).sum

variable (t : PointTable)

theorem mem_entries_iff {p : Probe} {test : String} {points : UInt32} :
    (p, test, points) ∈ t.entries ↔ t.points? p test = some points := by
  simp only [entries, List.mem_flatMap, List.mem_map, points?, row?, Option.bind_eq_bind,
    Option.bind_eq_some_iff]
  refine ⟨fun h => ?_, fun h => ?_⟩
  · obtain ⟨⟨p', row⟩, hrow, ⟨test', points'⟩, hentry, heq⟩ := h
    cases heq
    exact ⟨row, Std.ExtTreeMap.mem_toList_iff_getElem?_eq_some.1 hrow,
      Std.ExtTreeMap.mem_toList_iff_getElem?_eq_some.1 hentry⟩
  · obtain ⟨row, hrow, hentry⟩ := h
    exact ⟨(p, row), Std.ExtTreeMap.mem_toList_iff_getElem?_eq_some.2 hrow, (test, points),
      Std.ExtTreeMap.mem_toList_iff_getElem?_eq_some.2 hentry, rfl⟩

/-- The most that can be earned is the sum of all entries. -/
theorem most_eq_worth_entries : t.most = worth t.entries := by
  rw [worth, entries, sum_map_flatMap]
  simp only [List.map_map]
  rfl

/-- A total by way of the map of rows. -/
theorem total_eq (p : Probe) : t.total p = (t.rows[p]?.map PointRow.total).getD 0 := by
  unfold total row?
  cases t.rows[p]? <;> rfl

/-- Distinct probes are worth no more together than the whole table. -/
theorem sum_total_le_most {ps : List Probe} (h : ps.Nodup) : (ps.map t.total).sum ≤ t.most := by
  rw [funext t.total_eq]
  exact sum_map_le_of_nodup t.rows PointRow.total h

/-- A probe is worth the sum of its entries. -/
theorem total_eq_worth_filter (p : Probe) : t.total p = worth (t.entries.filter (·.1 = p)) := by
  have hsingle : t.total p = (t.rows.keys.map fun k => if k = p then t.total k else 0).sum := by
    rw [← List.sum_toFinset _ Std.ExtTreeMap.nodup_keys, Finset.sum_ite_eq']
    split
    · rfl
    · next hp =>
      rw [List.mem_toFinset, Std.ExtTreeMap.mem_keys] at hp
      rw [total_eq, Std.ExtTreeMap.getElem?_eq_none hp]
      rfl
  rw [hsingle, ← Std.ExtTreeMap.map_fst_toList_eq_keys, List.map_map, worth, entries,
    List.filter_flatMap, sum_map_flatMap]
  refine congrArg List.sum (List.map_congr_left fun row hrow => ?_)
  by_cases hp : row.1 = p
  · have hentries : (row.2.toList.map fun entry => (row.1, entry)).filter (·.1 = p) =
        row.2.toList.map fun entry => (row.1, entry) := by
      simp [List.filter_map, Function.comp_def, hp]
    rw [hentries, List.map_map, Function.comp, if_pos hp, total_eq,
      Std.ExtTreeMap.mem_toList_iff_getElem?_eq_some.1 hrow]
    rfl
  · have hentries : (row.2.toList.map fun entry => (row.1, entry)).filter (·.1 = p) = [] := by
      simp [List.filter_map, Function.comp_def, hp]
    rw [hentries, Function.comp, if_neg hp]
    rfl

/-- Distinct tests of a probe are worth no more together than the probe. -/
theorem sum_testWorth_le_total (p : Probe) {tests : List String} (h : tests.Nodup) :
    (tests.map (t.testWorth p)).sum ≤ t.total p := by
  unfold testWorth points? total
  cases t.row? p with
  | none => simp
  | some row => exact sum_map_le_of_nodup row UInt32.toNat h

/-- A test is worth no more than its probe. -/
theorem points_le_total {p : Probe} {test : String} {points : UInt32}
    (h : t.points? p test = some points) : points.toNat ≤ t.total p := by
  simpa [testWorth, h] using t.sum_testWorth_le_total p (List.nodup_singleton test)

end PointTable

/-! ## Sums of words -/

/-- What 64-bit words come to when they are added up one after another. -/
def wordSum (ws : List UInt64) : UInt64 := ws.foldl (· + ·) 0

theorem toNat_foldl_add (ws : List UInt64) (v : UInt64) :
    (ws.foldl (· + ·) v).toNat = (v.toNat + (ws.map UInt64.toNat).sum) % 2 ^ 64 := by
  induction ws generalizing v with
  | nil => simp [Nat.mod_eq_of_lt v.toNat_lt]
  | cons w ws ih =>
    rw [List.foldl_cons, ih, UInt64.toNat_add, Nat.mod_add_mod, List.map_cons, List.sum_cons,
      Nat.add_assoc]

/-- A sum that is a word itself is what its words come to. -/
theorem toNat_wordSum {ws : List UInt64} (h : (ws.map UInt64.toNat).sum < 2 ^ 64) :
    (wordSum ws).toNat = (ws.map UInt64.toNat).sum := by
  rw [wordSum, toNat_foldl_add, UInt64.toNat_zero, Nat.zero_add, Nat.mod_eq_of_lt h]

namespace PointTable

/-- What the tests of a probe are worth together, in 64-bit words. -/
def wordTotal (t : PointTable) (probe : Probe) : UInt64 :=
  match t.row? probe with
  | some row => wordSum (row.toList.map fun entry => entry.2.toUInt64)
  | none => 0

/-- The most that a fingerprint can earn, in 64-bit words. -/
def wordMost (t : PointTable) : UInt64 := wordSum (t.probes.map t.wordTotal)

variable {t : PointTable}

/-- A row has points for the tests that its probe accepts, at most. -/
theorem Legal.total_le (h : t.Legal) (p : Probe) : t.total p ≤ 17 * (2 ^ 32 - 1) := by
  unfold total
  cases hrow : t.row? p with
  | none => exact Nat.zero_le _
  | some row =>
    have hsubset : row.keys ⊆ p.accepted := fun test htest =>
      Probe.mem_accepted_iff.2 (h.accepted p row test hrow (Std.ExtTreeMap.mem_keys.1 htest))
    have hlength : row.toList.length ≤ 17 := by
      rw [← List.length_map Prod.fst, Std.ExtTreeMap.map_fst_toList_eq_keys]
      exact (List.subperm_of_subset Std.ExtTreeMap.nodup_keys hsubset).length_le.trans
        p.length_accepted_le
    have hpoints : row.total ≤ row.toList.length * (2 ^ 32 - 1) :=
      sum_map_le_length_mul fun entry _ => Nat.le_sub_one_of_lt entry.2.toNat_lt
    exact hpoints.trans (Nat.mul_le_mul_right _ hlength)

/-- The most that can be earned is the sum of the totals. -/
theorem most_eq_sum_total (t : PointTable) : t.most = (t.probes.map t.total).sum := by
  rw [funext t.total_eq, probes, sum_map_keys]
  rfl

theorem Legal.most_le (h : t.Legal) : t.most ≤ 14 * (17 * (2 ^ 32 - 1)) := by
  have hlength : t.probes.length ≤ 14 :=
    (List.subperm_of_subset Std.ExtTreeMap.nodup_keys fun p _ => Probe.mem_all p).length_le
  have htotals : (t.probes.map t.total).sum ≤ t.probes.length * (17 * (2 ^ 32 - 1)) :=
    sum_map_le_length_mul fun p _ => h.total_le p
  rw [most_eq_sum_total]
  exact htotals.trans (Nat.mul_le_mul_right _ hlength)

/-- Adding up a row of a legal table in 64-bit words loses nothing. -/
theorem Legal.toNat_wordTotal (h : t.Legal) (p : Probe) : (t.wordTotal p).toNat = t.total p := by
  have hle := h.total_le p
  unfold wordTotal total at *
  cases hrow : t.row? p with
  | none => rfl
  | some row =>
    simp only [hrow] at hle ⊢
    have hsum : ((row.toList.map fun entry => entry.2.toUInt64).map UInt64.toNat).sum =
        row.total := by
      rw [List.map_map]
      rfl
    exact (toNat_wordSum (by rw [hsum]; omega)).trans hsum

/-- Nor does adding up all of it. -/
theorem Legal.toNat_wordMost (h : t.Legal) : t.wordMost.toNat = t.most := by
  have hle := h.most_le
  have hsum : ((t.probes.map t.wordTotal).map UInt64.toNat).sum = t.most := by
    rw [most_eq_sum_total, List.map_map]
    exact congrArg List.sum (List.map_congr_left fun p _ => h.toNat_wordTotal p)
  exact (toNat_wordSum (by omega)).trans hsum

end PointTable

end OsDetection
