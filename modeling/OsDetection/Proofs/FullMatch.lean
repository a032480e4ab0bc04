import OsDetection.Proofs.Resemblance

/-!
# Full matches

What the responses of a query are worth to a fingerprint is a sum over probes, and what the answers
to a probe are worth is a sum over tests. Either is bounded by a sum over the point table, and comes
to it exactly if no probe, or no test, earns less than it is worth (`sum_map_eq_sum_map_iff`). For
the tests of a probe this says which values must have been observed
(`Database.agreement_answered_eq_total_iff`), and for the probes which fingerprints have the most
that can be earned (`Database.score_eq_most_iff`).
-/

namespace OsDetection

/-- What listed keys earn together is what all keys are worth exactly if every key earns what it is
worth. A key that is not listed earns nothing. -/
theorem sum_map_eq_sum_map_iff {κ : Type} [DecidableEq κ] {ks all : List κ} {v w : κ → Nat}
    (hks : ks.Nodup) (hall : all.Nodup) (hle : ∀ k, v k ≤ w k) (hv : ∀ k ∉ ks, v k = 0)
    (hw : ∀ k ∉ all, w k = 0) : (ks.map v).sum = (all.map w).sum ↔ ∀ k, v k = w k := by
  have hzero : ∀ k ∉ all, v k = 0 := by
    intro k hk
    have h := hle k
    rw [hw k hk] at h
    exact Nat.eq_zero_of_le_zero h
  -- Only keys in both lists earn anything, so that the sums may go over the same keys.
  have hkeys : (ks.map v).sum = (all.map v).sum := by
    rw [← List.sum_toFinset _ hks, ← List.sum_toFinset _ hall]
    refine Finset.sum_congr_of_eq_on_inter (fun k _ hk => ?_) (fun k _ hk => ?_) fun _ _ _ => rfl
    · exact hzero k (mt List.mem_toFinset.2 hk)
    · exact hv k (mt List.mem_toFinset.2 hk)
  rw [hkeys, ← List.sum_toFinset _ hall, ← List.sum_toFinset _ hall,
    Finset.sum_eq_sum_iff_of_le fun k _ => hle k]
  constructor
  · intro h k
    by_cases hk : k ∈ all
    · exact h k (List.mem_toFinset.2 hk)
    · rw [hzero k hk, hw k hk]
  · intro h k _
    exact h k

/-! ## The worth of a probe -/

namespace PointTable

variable {t : PointTable} {p : Probe} {row : PointRow} (hrow : t.row? p = some row)
include hrow

theorem testWorth_eq (test : String) :
    t.testWorth p test = (row[test]?.map UInt32.toNat).getD 0 := by
  simp [testWorth, points?, hrow]

/-- A probe is worth what the tests in its row are worth. -/
theorem total_eq_sum_testWorth : t.total p = (row.keys.map (t.testWorth p)).sum := by
  rw [funext (testWorth_eq hrow), sum_map_keys, total, hrow]
  rfl

/-- A test is worth nothing unless it has points, and more than none. -/
theorem testWorth_eq_zero_iff {test : String} :
    t.testWorth p test = 0 ↔ ∀ points, row[test]? = some points → ¬ 0 < points := by
  rw [testWorth_eq hrow]
  cases row[test]? with
  | none => simp
  | some points => simp [UInt32.lt_iff_toNat_lt]

/-- A probe is worth nothing unless one of its tests is worth something. -/
theorem total_eq_zero_iff :
    t.total p = 0 ↔ ∀ (test : String) points, row[test]? = some points → ¬ 0 < points := by
  rw [total_eq_sum_testWorth hrow, List.sum_eq_zero_iff, List.forall_mem_map]
  constructor
  · intro h test points hpoints
    have htest : test ∈ row.keys := by
      rw [Std.ExtTreeMap.mem_keys, Std.ExtTreeMap.mem_iff_isSome_getElem?, hpoints]
      rfl
    exact (testWorth_eq_zero_iff hrow).1 (h test htest) points hpoints
  · intro h test _
    exact (testWorth_eq_zero_iff hrow).2 (h test)

end PointTable

/-! ## Observed values -/

namespace Response

/-- Whether an observed response has a value for a test which the pattern for the test accepts. -/
def meets (r : Response String) (patterns : TestMap Pattern) (test : String) : Bool :=
  r.observed[test]?.any fun value => patterns[test]?.any (·.accepts value)

theorem meets_iff {r : Response String} {patterns : TestMap Pattern} {test : String} :
    r.meets patterns test ↔ ∃ value pattern, r.observed[test]? = some value ∧
      patterns[test]? = some pattern ∧ pattern.accepts value := by
  simp [meets, Option.any_eq_true]

end Response

namespace Query

/-- What a response has a value for was observed with that value. -/
theorem exists_meets_iff {gs : List Group} (h : (gs.map (·.probe)).Nodup) {p : Probe}
    {patterns : TestMap Pattern} {test : String} :
    (∃ r, (ofGroups gs).response? p = some r ∧ r.meets patterns test) ↔
      ∃ value pattern, ⟨p, test, value⟩ ∈ (ofGroups gs).observations ∧
        patterns[test]? = some pattern ∧ pattern.accepts value := by
  simp only [mem_observations_ofGroups_iff h, Response.meets_iff]
  constructor
  · rintro ⟨r, hr, value, pattern, hvalue, haccepts⟩
    exact ⟨value, pattern, ⟨r, hr, hvalue⟩, haccepts⟩
  · rintro ⟨value, pattern, ⟨r, hr, hvalue⟩, haccepts⟩
    exact ⟨r, hr, value, pattern, hvalue, haccepts⟩

end Query

/-! ## What a probe earns -/

namespace Database

section
variable (d : Database) (p : Probe) (r : Response String) (patterns : TestMap Pattern)

/-- What a test earns, where answers are expected. -/
def testShare (test : String) : Nat :=
  if r.meets patterns test then d.points.testWorth p test else 0

theorem testShare_le (test : String) :
    d.testShare p r patterns test ≤ d.points.testWorth p test := by
  unfold testShare
  split
  · exact Nat.le_refl _
  · exact Nat.zero_le _

/-- Where answers are expected, a probe earns what its tests earn. -/
theorem agreement_answered :
    d.agreement p r (.answered patterns) =
      (r.observed.keys.map (d.testShare p r patterns)).sum := by
  -- Silence is compared like the value of a test that it is.
  have hfilter : d.agreement p r (.answered patterns) = ((r.observed.toList.filter fun entry =>
      patterns[entry.1]?.any (·.accepts entry.2)).map fun entry =>
        d.points.testWorth p entry.1).sum := by
    cases r with
    | silent =>
      have hsilent : Response.silent.observed.toList = [(responsiveness, noAnswer)] :=
        List.perm_singleton.1 (perm_toList_ofList (List.nodup_singleton _))
      rw [hsilent, sum_map_filter, agreement]
      simp
    | answered values => rfl
  rw [hfilter, sum_map_filter, ← Std.ExtTreeMap.map_fst_toList_eq_keys, List.map_map]
  refine congrArg List.sum (List.map_congr_left fun entry hentry => ?_)
  have hvalue := Std.ExtTreeMap.mem_toList_iff_getElem?_eq_some.1 hentry
  simp [testShare, Response.meets, hvalue]

/-- A response earns no more than the probe is worth. -/
theorem agreement_le_total (expected : Response Pattern) :
    d.agreement p r expected ≤ d.points.total p := by
  cases expected with
  | silent =>
    cases r with
    | silent => exact Nat.le_refl _
    | answered values => exact Nat.zero_le _
  | answered patterns =>
    calc d.agreement p r (.answered patterns)
        = (r.observed.keys.map (d.testShare p r patterns)).sum := d.agreement_answered p r patterns
      _ ≤ (r.observed.keys.map (d.points.testWorth p)).sum :=
          List.sum_le_sum fun test _ => d.testShare_le p r patterns test
      _ ≤ d.points.total p := d.points.sum_testWorth_le_total p Std.ExtTreeMap.nodup_keys

end

/-- What a probe earns: nothing if the query or the fingerprint does not mention it. -/
def probeShare (d : Database) (q : Query) (f : Fingerprint) (p : Probe) : Nat :=
  match q.response? p, f.response? p with
  | some observed, some expected => d.agreement p observed expected
  | _, _ => 0

theorem probeShare_le_total (d : Database) (q : Query) (f : Fingerprint) (p : Probe) :
    d.probeShare q f p ≤ d.points.total p := by
  unfold probeShare
  split
  · exact d.agreement_le_total p _ _
  · exact Nat.zero_le _

variable {d : Database} {p : Probe} {row : PointRow} (hrow : d.points.row? p = some row)
include hrow

/-- Answers earn all that a probe is worth if each test that has points has an accepted value. -/
theorem agreement_answered_eq_total_iff {r : Response String} {patterns : TestMap Pattern} :
    d.agreement p r (.answered patterns) = d.points.total p ↔
      ∀ test points, row[test]? = some points → 0 < points → r.meets patterns test := by
  have hunlisted : ∀ test ∉ r.observed.keys, d.testShare p r patterns test = 0 := by
    intro test htest
    rw [Std.ExtTreeMap.mem_keys] at htest
    simp [testShare, Response.meets, Std.ExtTreeMap.getElem?_eq_none htest]
  have hworthless : ∀ test ∉ row.keys, d.points.testWorth p test = 0 := by
    intro test htest
    rw [Std.ExtTreeMap.mem_keys] at htest
    simp [PointTable.testWorth_eq hrow, Std.ExtTreeMap.getElem?_eq_none htest]
  have htest (test : String) : d.testShare p r patterns test = d.points.testWorth p test ↔
      ∀ points, row[test]? = some points → 0 < points → r.meets patterns test := by
    unfold testShare
    split
    · next hmeets => simp [hmeets]
    · next hmeets =>
      rw [eq_comm, PointTable.testWorth_eq_zero_iff hrow]
      simp [hmeets]
  rw [agreement_answered, PointTable.total_eq_sum_testWorth hrow,
    sum_map_eq_sum_map_iff Std.ExtTreeMap.nodup_keys Std.ExtTreeMap.nodup_keys
      (d.testShare_le p r patterns) hunlisted hworthless]
  exact forall_congr' htest

/-- What a query and a fingerprint say about a probe is worth the most exactly if the probe is worth
nothing, or silence was expected and observed, or each test that has points was expected to have a
value that was observed. -/
theorem probeShare_eq_total_iff {q : Query} {f : Fingerprint} :
    d.probeShare q f p = d.points.total p ↔
      d.points.total p = 0 ∨ (q.response? p = some .silent ∧ f.response? p = some .silent) ∨
        ∃ patterns, f.response? p = some (.answered patterns) ∧
          ∀ test points, row[test]? = some points → 0 < points →
            ∃ r, q.response? p = some r ∧ r.meets patterns test := by
  have hzero := PointTable.total_eq_zero_iff hrow
  unfold probeShare
  cases hq : q.response? p with
  | none =>
    constructor
    · intro h
      exact .inl h.symm
    · rintro (h | ⟨h, -⟩ | ⟨patterns, -, h⟩)
      · exact h.symm
      · cases h
      · -- No test has points, since none was observed.
        refine (hzero.2 fun test points hpoints hpos => ?_).symm
        obtain ⟨r, hr, -⟩ := h test points hpoints hpos
        cases hr
  | some r =>
    cases hf : f.response? p with
    | none => exact eq_comm.trans (or_iff_left (by simp)).symm
    | some expected =>
      cases expected with
      | silent =>
        cases r with
        | silent => simp [agreement]
        | answered values => exact eq_comm.trans (or_iff_left (by simp)).symm
      | answered patterns =>
        dsimp only
        rw [agreement_answered_eq_total_iff hrow]
        constructor
        · intro h
          refine .inr (.inr ⟨patterns, rfl, fun test points hpoints hpos => ?_⟩)
          exact ⟨r, rfl, h test points hpoints hpos⟩
        · rintro (h | ⟨-, h⟩ | ⟨patterns', h, hmeets⟩) test points hpoints hpos
          · exact absurd hpos (hzero.1 h test points hpoints)
          · cases h
          · cases h
            obtain ⟨r', hr', hmeets⟩ := hmeets test points hpoints hpos
            cases hr'
            exact hmeets

omit hrow

/-- Responses are worth the whole table exactly if no probe earns less than it is worth. -/
theorem resemblance_eq_most_iff (hlegal : d.points.Legal) {q : Query} {f : Fingerprint} :
    d.resemblance q f = d.points.most ↔ ∀ p, d.probeShare q f p = d.points.total p := by
  have hsum : d.resemblance q f =
      ((q.probes.filter (!·.isInformational)).map (d.probeShare q f)).sum := rfl
  have hunlisted : ∀ p ∉ q.probes.filter (!·.isInformational), d.probeShare q f p = 0 := by
    intro p hp
    by_cases hscan : p.isInformational
    · -- A legal table has no points for what is only informational.
      obtain rfl := Probe.isInformational_iff.1 hscan
      have hle := d.probeShare_le_total q f .scan
      simpa [PointTable.total, hlegal.informational] using hle
    · have hprobe : p ∉ q.probes := fun h => hp (List.mem_filter.2 ⟨h, by simpa using hscan⟩)
      have hnone : q.response? p = none :=
        Std.ExtTreeMap.getElem?_eq_none (mt Std.ExtTreeMap.mem_keys.2 hprobe)
      simp [probeShare, hnone]
  have hworthless : ∀ p ∉ d.points.probes, d.points.total p = 0 := by
    intro p hp
    have hnone : d.points.row? p = none :=
      Std.ExtTreeMap.getElem?_eq_none (mt Std.ExtTreeMap.mem_keys.2 hp)
    simp [PointTable.total, hnone]
  rw [hsum, PointTable.most_eq_sum_total]
  exact sum_map_eq_sum_map_iff (Std.ExtTreeMap.nodup_keys.filter _) Std.ExtTreeMap.nodup_keys
    (d.probeShare_le_total q f) hunlisted hworthless

/-- **Full matches.** A fingerprint of a database that was read has the most that can be earned with
a query exactly if, of every probe in the point table, the probe is worth nothing, or the query has
the silence that the fingerprint expects, or the fingerprint expects answers and accepts an observed
value of each test that has points. -/
theorem score_eq_most_iff {source text query : String} {q : Query} {ss : List Nat} {i : Nat}
    {f : Fingerprint} (hd : (ofText source text).outcome = .ok d)
    (hq : (Query.ofText query).outcome = .ok q) (hss : (d.scores q.observations).outcome = .ok ss)
    (hf : d.fingerprints[i]? = some f) :
    ss[i]? = some d.points.most ↔ ∀ p row, d.points.row? p = some row →
      d.points.total p = 0 ∨ (q.response? p = some .silent ∧ f.response? p = some .silent) ∨
        ∃ patterns, f.response? p = some (.answered patterns) ∧
          ∀ test points, row[test]? = some points → 0 < points →
            ∃ value pattern, ⟨p, test, value⟩ ∈ q.observations ∧
              patterns[test]? = some pattern ∧ pattern.accepts value := by
  obtain ⟨gs, hgs, rfl⟩ := Query.outcome_ofText_eq_ok_iff.1 hq
  obtain ⟨hcovers, rfl⟩ := outcome_scores_eq_ok_iff.1 hss
  -- Nothing is cut off, so that the score is what the responses are worth.
  have hle : d.contributions f (Query.ofGroups gs).observations ≤ Score.limit :=
    (Query.contributions_le_most d f hgs).trans (most_le_limit hd)
  rw [List.getElem?_map, hf, Option.map_some, Option.some.injEq, Nat.min_eq_right hle,
    Query.contributions_eq_resemblance f hgs hcovers,
    resemblance_eq_most_iff (legal_points_of_ofText hd)]
  refine forall_congr' fun p => ?_
  cases hrow : d.points.row? p with
  | none =>
    have htotal : d.points.total p = 0 := by simp [PointTable.total, hrow]
    have hshare := d.probeShare_le_total (Query.ofGroups gs) f p
    exact iff_of_true (by omega) (by simp)
  | some row =>
    rw [probeShare_eq_total_iff hrow]
    simp only [Query.exists_meets_iff hgs.nodup, Option.some.injEq, forall_eq']

/-- The fingerprint accepts both answers of `T1` and expects the silence of `T2`. Of `T3`, which is
worth nothing, the query has no value. -/
theorem score_eq_most_iff_every_case :
    ∃ d q f, (ofText "" "MatchPoints\nT1(R=30%DF=20)\nT2(R=80)\nT3(R=0)\n
Fingerprint box\nSEQ()\nOPS()\nWIN()\nECN()\nT1(R=Y%DF=N|Y)\nT2()\nT3(R=Y)\nT4()\nT5()\nT6()
T7()\nU1()\nIE()").outcome = .ok d ∧
      (Query.ofText "T1(R=Y%DF=N)T2()").outcome = .ok q ∧
      (d.scores q.observations).outcome = .ok [130] ∧ d.points.most = 130 ∧
      d.fingerprints[0]? = some f ∧ ∀ p row, d.points.row? p = some row →
        d.points.total p = 0 ∨ (q.response? p = some .silent ∧ f.response? p = some .silent) ∨
          ∃ patterns, f.response? p = some (.answered patterns) ∧
            ∀ test points, row[test]? = some points → 0 < points →
              ∃ value pattern, ⟨p, test, value⟩ ∈ q.observations ∧
                patterns[test]? = some pattern ∧ pattern.accepts value := by
  have h : (do
      let d ← (ofText "" "MatchPoints\nT1(R=30%DF=20)\nT2(R=80)\nT3(R=0)\n
Fingerprint box\nSEQ()\nOPS()\nWIN()\nECN()\nT1(R=Y%DF=N|Y)\nT2()\nT3(R=Y)\nT4()\nT5()\nT6()
T7()\nU1()\nIE()").outcome
      let q ← (Query.ofText "T1(R=Y%DF=N)T2()").outcome
      (d.scores q.observations).outcome.map fun ss => (ss, d.points.most, d.fingerprints.length)) =
        .ok ([130], 130, 1) := by decide +kernel
  obtain ⟨d, hd, h⟩ := bind_eq_ok_iff.1 h
  obtain ⟨q, hq, h⟩ := bind_eq_ok_iff.1 h
  obtain ⟨ss, hss, h⟩ := map_eq_ok_iff.1 h
  simp only [Prod.mk.injEq] at h
  obtain ⟨rfl, hmost, hlength⟩ := h
  have hf : d.fingerprints[0]? = some d.fingerprints[0] := List.getElem?_eq_getElem _
  exact ⟨d, q, _, hd, hq, hss, hmost, hf, (score_eq_most_iff hd hq hss hf).1 (by simp [hmost])⟩

end Database

end OsDetection
