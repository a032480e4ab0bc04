import OsDetection.Proofs.Numeral.Rounding
import OsDetection.Proofs.Points
import OsDetection.Proofs.Query.Grammar
import OsDetection.Proofs.Scores

/-!
# The highest score

A query never earns a fingerprint more than the whole point table is worth. A test earns its points
at most, and only a silent probe earns its total at once (`Database.contribution_le_testWorth`,
`Database.contribution_le_total`). A group observes each test once, or nothing but silence, and so
earns the total of its probe at most (`Query.Group.contributions_le_total`); a query has one group
for a probe (`Query.contributions_le_most`). What the table of an accepted text is worth is far from
the largest score, so that nothing is cut off on the way.
-/

namespace OsDetection

/-! ## What an observation earns -/

section
variable (f : Fingerprint) {o : Observation} {points total : Nat}

/-- An observation earns the points of its test at most, unless silence earns the total. -/
theorem Fingerprint.earned_le_or_eq :
    f.earned o points total ≤ points ∨ o.isSilence ∧ f.earned o points total = total := by
  unfold earned
  cases f.response? o.probe with
  | none => exact .inl (Nat.zero_le _)
  | some r =>
    cases r with
    | silent =>
      cases ho : o.isSilence with
      | false => exact .inl (Nat.zero_le _)
      | true => exact .inr ⟨rfl, rfl⟩
    | answered tests =>
      dsimp only
      split
      · split
        · exact .inl (Nat.le_refl _)
        · exact .inl (Nat.zero_le _)
      · exact .inl (Nat.zero_le _)

namespace Database

variable (d : Database)

/-- What is not silence earns the points of its test at most. -/
theorem contribution_le_testWorth (ho : ¬o.isSilence) :
    d.contribution f o ≤ d.points.testWorth o.probe o.test := by
  unfold contribution PointTable.testWorth
  split
  · exact Nat.zero_le _
  · cases d.points.points? o.probe o.test with
    | none => exact Nat.zero_le _
    | some points => exact f.earned_le_or_eq.resolve_right fun h => ho h.1

/-- Nothing earns more than its probe is worth. -/
theorem contribution_le_total : d.contribution f o ≤ d.points.total o.probe := by
  unfold contribution
  split
  · exact Nat.zero_le _
  · cases hpoints : d.points.points? o.probe o.test with
    | none => exact Nat.zero_le _
    | some points =>
      rcases @f.earned_le_or_eq o points.toNat (d.points.total o.probe) with h | ⟨-, h⟩
      · exact h.trans (d.points.points_le_total hpoints)
      · exact h.le

end Database

end

namespace Query

variable (d : Database) (f : Fingerprint)

/-- A group earns the total of its probe at most. -/
theorem Group.contributions_le_total {g : Group} (hg : g.WellFormed) :
    d.contributions f g.observations ≤ d.points.total g.probe := by
  unfold observations
  split
  · rw [Database.contributions_singleton]
    exact d.contribution_le_total f
  · next hkept =>
    calc d.contributions f (g.kept.map fun e => ⟨g.probe, e.1, e.2⟩)
        = (g.kept.map fun e => d.contribution f ⟨g.probe, e.1, e.2⟩).sum := by
          rw [Database.contributions, List.map_map]
          rfl
      _ ≤ (g.kept.map fun e => d.points.testWorth g.probe e.1).sum :=
          List.sum_le_sum fun e he => d.contribution_le_testWorth f (hg.not_isSilence hkept he)
      _ = ((g.kept.map (·.1)).map (d.points.testWorth g.probe)).sum := by
          rw [List.map_map]
          rfl
      _ ≤ d.points.total g.probe := d.points.sum_testWorth_le_total g.probe (nodup_lastOfEach _)

/-- A query earns what the whole table is worth at most. -/
theorem contributions_le_most {text : String} {gs : List Group} (h : Spells text gs) :
    d.contributions f (ofGroups gs).observations ≤ d.points.most := by
  rw [observations_ofGroups, Database.contributions, sum_map_flatMap]
  calc (gs.map fun g => d.contributions f g.observations).sum
      ≤ (gs.map fun g => d.points.total g.probe).sum :=
        List.sum_le_sum fun g hg => Group.contributions_le_total d f (h.wellFormed g hg)
    _ = ((gs.map (·.probe)).map d.points.total).sum := by
        rw [List.map_map]
        rfl
    _ ≤ d.points.most := d.points.sum_total_le_most h.nodup

end Query

/-! ## Runs -/

/-- Whether scoring an observation would take a score beyond the largest. -/
def Run.Saturates (r : Run) (o : Observation) : Prop :=
  ¬o.probe.isInformational ∧ ∃ points, r.database.points.points? o.probe o.test = some points ∧
    ∃ entry ∈ r.database.fingerprints.zip r.scores,
      Score.limit < entry.2 + entry.1.earned o points.toNat (r.database.points.total o.probe)

namespace Database

variable {d : Database}

/-- More observations contribute more. -/
theorem contributions_le_of_sublist {os os' : List Observation} (f : Fingerprint)
    (h : os.Sublist os') : d.contributions f os ≤ d.contributions f os' :=
  (h.map _).sum_le_sum fun _ _ => Nat.zero_le _

/-- A step does not saturate where the exact sums are no larger than the largest score. -/
theorem not_saturates_after {before : List Observation} {o : Observation}
    (h : ∀ f, d.contributions f (before ++ [o]) ≤ Score.limit) :
    ¬(Run.after d before).Saturates o := by
  rintro ⟨hprobe, points, hpoints, entry, hentry, hlt⟩
  obtain ⟨f, -, rfl⟩ : ∃ f ∈ d.fingerprints,
      (f, min Score.limit (d.contributions f before)) = entry := by
    rwa [Run.after, ← List.map_prod_left_eq_zip, List.mem_map] at hentry
  have hearned : d.contribution f o = f.earned o points.toNat (d.points.total o.probe) :=
    contribution_eq_earned hprobe hpoints f
  have hsum := h f
  rw [contributions_append, contributions_singleton, hearned] at hsum
  dsimp only [Run.after] at hlt
  omega

/-- The points of an accepted text are few enough for any sum of them to be a score. -/
theorem most_le_limit {source text : String} (h : (ofText source text).outcome = .ok d) :
    d.points.most ≤ Score.limit := by
  have hmost := (legal_points_of_ofText h).most_le
  have hlimit := Score.limit_eq
  omega

open OsDetection.Numeral in
/-- Every score is the exact sum of what was earned, and at most the most that can be earned, so
that its percentage is one hundred at most. The totals are the sums of the entries, also in 64-bit
words, and no step of the run saturates. -/
theorem scores_le_most {source text query : String} {q : Query}
    (hd : (ofText source text).outcome = .ok d) (hq : (Query.ofText query).outcome = .ok q) :
    (∀ ss, (d.scores q.observations).outcome = .ok ss →
      ss = d.fingerprints.map (d.contributions · q.observations) ∧
        ∀ s ∈ ss, s ≤ d.points.most ∧ (percentage s d.points.most).negative = false ∧
          Binary64.units (percentage s d.points.most).magnitude ≤ 100 * Binary64.one) ∧
      (d.points.most = PointTable.worth d.points.entries ∧ d.points.most < 2 ^ 64 ∧
        d.points.wordMost.toNat = d.points.most) ∧
      (∀ p, d.points.total p = PointTable.worth (d.points.entries.filter (·.1 = p)) ∧
        d.points.total p < 2 ^ 64 ∧ (d.points.wordTotal p).toNat = d.points.total p) ∧
      ∀ before o after, q.observations = before ++ o :: after →
        ¬((Run.start d).applyEach before).1.Saturates o := by
  obtain ⟨gs, hgs, rfl⟩ := Query.outcome_ofText_eq_ok_iff.1 hq
  have hlegal := legal_points_of_ofText hd
  have hsum (f : Fingerprint) := Query.contributions_le_most d f hgs
  refine ⟨fun ss hss => ?_, ⟨d.points.most_eq_worth_entries, ?_, hlegal.toNat_wordMost⟩,
    fun p => ⟨d.points.total_eq_worth_filter p, ?_, hlegal.toNat_wordTotal p⟩,
    fun before o after hobservations => ?_⟩
  · have hexact : ss = d.fingerprints.map (d.contributions · (Query.ofGroups gs).observations) := by
      rw [(outcome_scores_eq_ok_iff.1 hss).2]
      refine List.map_congr_left fun f _ => ?_
      exact Nat.min_eq_right ((hsum f).trans (most_le_limit hd))
    refine ⟨hexact, fun s hs => ?_⟩
    obtain ⟨f, -, rfl⟩ := List.mem_map.1 (hexact ▸ hs)
    exact ⟨hsum f, units_percentage_le (hsum f)⟩
  · have hmost := hlegal.most_le
    omega
  · have htotal := hlegal.total_le p
    omega
  · rw [Run.start_eq_after, Run.applyEach_after]
    refine not_saturates_after fun f => ?_
    have hsublist : ([] ++ before.takeWhile d.covers ++ [o]).Sublist
        (Query.ofGroups gs).observations := by
      rw [hobservations, List.nil_append, List.append_cons before]
      exact ((List.takeWhile_sublist _).append_right [o]).trans (List.sublist_append_left _ _)
    exact (contributions_le_of_sublist f hsublist).trans ((hsum f).trans (most_le_limit hd))

/-- Two matching tests and a matching silence are all there is to earn. -/
theorem scores_le_most_everything_matches :
    ∃ d q, (ofText "" "MatchPoints\nT1(R=30%DF=20)\nT2(R=80%W=10)\n\nFingerprint box\nSEQ()\nOPS()
WIN()\nECN()\nT1(R=Y%DF=N)\nT2()\nT3()\nT4()\nT5()\nT6()\nT7()\nU1()\nIE()").outcome = .ok d ∧
      (Query.ofText "SCAN(V=7)\nT1(DF=N%R=Y)\nT2(R=N)").outcome = .ok q ∧
      (d.scores q.observations).outcome = .ok [140] ∧ 140 ≤ d.points.most ∧
      d.points.most < 2 ^ 64 := by
  have h : (do
      let d ← (ofText "" "MatchPoints\nT1(R=30%DF=20)\nT2(R=80%W=10)\n\nFingerprint box\nSEQ()
OPS()\nWIN()\nECN()\nT1(R=Y%DF=N)\nT2()\nT3()\nT4()\nT5()\nT6()\nT7()\nU1()\nIE()").outcome
      let q ← (Query.ofText "SCAN(V=7)\nT1(DF=N%R=Y)\nT2(R=N)").outcome
      (d.scores q.observations).outcome) = .ok [140] := by decide +kernel
  obtain ⟨d, hd, h⟩ := bind_eq_ok_iff.1 h
  obtain ⟨q, hq, hss⟩ := bind_eq_ok_iff.1 h
  obtain ⟨hscores, hmost, -⟩ := scores_le_most hd hq
  exact ⟨d, q, hd, hq, hss, ((hscores _ hss).2 140 (by decide)).1, hmost.2.1⟩

end Database

end OsDetection
