import OsDetection.Proofs.HighestScore
import OsDetection.Proofs.Query.Views

/-!
# Scores by probe

What a fingerprint scores can be said from the responses of a query alone, without its observations:
`Database.agreement` compares the response to a probe with the one that the fingerprint expects, and
`Database.resemblance` adds this up over the probes of the query. A group of a query contributes the
agreement of its response, observation by observation (`Query.Group.contributions_eq`), and the
groups of a query are its responses in another order (`Query.perm_probes_ofGroups`), so that what
the observations contribute is the resemblance (`Query.contributions_eq_resemblance`).
-/

namespace OsDetection

/-! ## The reference -/

namespace Database

variable (d : Database)

/-- What an observed response is worth where another is expected: silence the whole probe if it is
expected, and where answers are expected each test whose value they accept. -/
def agreement (p : Probe) : Response String → Response Pattern → Nat
  | .silent, .silent => d.points.total p
  | .silent, .answered patterns =>
    if patterns[responsiveness]?.any (·.accepts noAnswer) then d.points.testWorth p responsiveness
    else 0
  | .answered _, .silent => 0
  | .answered values, .answered patterns =>
    ((values.toList.filter fun entry => patterns[entry.1]?.any (·.accepts entry.2)).map fun entry =>
      d.points.testWorth p entry.1).sum

/-- What the responses of a query are worth to a fingerprint, probe by probe. -/
def resemblance (q : Query) (f : Fingerprint) : Nat :=
  ((q.probes.filter (!·.isInformational)).map fun p =>
    match q.response? p, f.response? p with
    | some observed, some expected => d.agreement p observed expected
    | _, _ => 0).sum

end Database

/-! ## Sums over lists -/

/-- A sum over some elements is the sum over all where the others count nothing. -/
theorem sum_map_filter {α : Type} (p : α → Bool) (w : α → Nat) (as : List α) :
    ((as.filter p).map w).sum = (as.map fun a => if p a then w a else 0).sum := by
  induction as with
  | nil => rfl
  | cons a as ih => cases h : p a <;> simp [h, ih]

/-! ## Observations -/

namespace Database

variable {d : Database} (f : Fingerprint) {o : Observation}

/-- What an observation adds, once it can be scored. -/
theorem contribution_eq_of_covers (hprobe : ¬ o.probe.isInformational) (hcovers : d.covers o) :
    d.contribution f o =
      match f.response? o.probe with
      | none => 0
      | some .silent => if o.isSilence then d.points.total o.probe else 0
      | some (.answered patterns) =>
        if patterns[o.test]?.any (·.accepts o.value) then d.points.testWorth o.probe o.test
        else 0 := by
  obtain ⟨points, hpoints⟩ := exists_points_of_covers hprobe hcovers
  have hworth : d.points.testWorth o.probe o.test = points.toNat := by
    simp [PointTable.testWorth, hpoints]
  rw [contribution_eq_earned hprobe hpoints, hworth, Fingerprint.earned]
  cases f.response? o.probe with
  | none => rfl
  | some response =>
    cases response with
    | silent => rfl
    | answered patterns =>
      dsimp only
      cases patterns[o.test]? <;> rfl

end Database

namespace Query

variable {d : Database} (f : Fingerprint)

/-- A group contributes the agreement of its response. -/
theorem Group.contributions_eq {g : Group} (hg : g.WellFormed)
    (hprobe : ¬ g.probe.isInformational) (hcovers : ∀ o ∈ g.observations, d.covers o) :
    d.contributions f g.observations =
      match f.response? g.probe with
      | none => 0
      | some expected => d.agreement g.probe g.response expected := by
  unfold observations response at *
  split
  · next hkept =>
    rw [if_pos hkept] at hcovers
    rw [Database.contributions_singleton,
      Database.contribution_eq_of_covers f hprobe (hcovers _ (by simp))]
    dsimp only [Observation.silence]
    cases f.response? g.probe with
    | none => rfl
    | some expected => cases expected <;> rfl
  · next hkept =>
    rw [if_neg hkept] at hcovers
    have hentry : ∀ e ∈ g.kept, d.contribution f ⟨g.probe, e.1, e.2⟩ =
        match f.response? g.probe with
        | none => 0
        | some .silent => 0
        | some (.answered patterns) =>
          if patterns[e.1]?.any (·.accepts e.2) then d.points.testWorth g.probe e.1 else 0 := by
      intro e he
      rw [Database.contribution_eq_of_covers f hprobe (hcovers _ (List.mem_map_of_mem he)),
        if_neg (hg.not_isSilence hkept he)]
    rw [Database.contributions, List.map_map, Function.comp_def, List.map_congr_left hentry]
    cases f.response? g.probe with
    | none => simp
    | some expected =>
      cases expected with
      | silent => simp [Database.agreement]
      | answered patterns =>
        dsimp only [Database.agreement]
        rw [sum_map_filter]
        exact ((perm_toList_ofList (nodup_lastOfEach _)).symm.map _).sum_eq

/-- A query contributes its resemblance to a fingerprint if it can be scored. -/
theorem contributions_eq_resemblance {text : String} {gs : List Group} (h : Spells text gs)
    (hcovers : ∀ o ∈ (ofGroups gs).observations, d.covers o) :
    d.contributions f (ofGroups gs).observations = d.resemblance (ofGroups gs) f := by
  rw [observations_ofGroups] at *
  have hgroup : ∀ g ∈ gs, d.contributions f g.observations =
      if !g.probe.isInformational then
        match (ofGroups gs).response? g.probe, f.response? g.probe with
        | some observed, some expected => d.agreement g.probe observed expected
        | _, _ => 0
      else 0 := by
    intro g hg
    by_cases hprobe : g.probe.isInformational
    · rw [hprobe, Bool.not_true, if_neg nofun]
      refine List.sum_eq_zero fun n hn => ?_
      obtain ⟨o, ho, rfl⟩ := List.mem_map.1 hn
      rw [Database.contribution, g.probe_of_mem_observations ho, if_pos hprobe]
    · have hgroup : ∀ o ∈ g.observations, d.covers o := fun o ho =>
        hcovers o (List.mem_flatMap.2 ⟨g, hg, ho⟩)
      rw [Group.contributions_eq f (h.wellFormed g hg) hprobe hgroup,
        response?_ofGroups h.nodup hg, if_pos (by simpa using hprobe)]
      cases f.response? g.probe <;> rfl
  rw [Database.contributions, sum_map_flatMap, Database.resemblance, sum_map_filter,
    ((perm_probes_ofGroups h.nodup).map _).sum_eq, List.map_map]
  exact congrArg List.sum (List.map_congr_left hgroup)

end Query

namespace Database

variable {d : Database}

/-- **Scoring loses nothing.** What the observations of a query earn a fingerprint one after another
is what the query's responses are worth to it, probe by probe. -/
theorem scores_eq_resemblance {source text query : String} {q : Query} {ss : List Nat}
    (hd : (ofText source text).outcome = .ok d) (hq : (Query.ofText query).outcome = .ok q)
    (hss : (d.scores q.observations).outcome = .ok ss) :
    ss = d.fingerprints.map (d.resemblance q) := by
  obtain ⟨gs, hgs, rfl⟩ := Query.outcome_ofText_eq_ok_iff.1 hq
  obtain ⟨hcovers, rfl⟩ := outcome_scores_eq_ok_iff.1 hss
  refine List.map_congr_left fun f _ => ?_
  have hle : d.contributions f (Query.ofGroups gs).observations ≤ Score.limit :=
    (Query.contributions_le_most d f hgs).trans (most_le_limit hd)
  rw [Nat.min_eq_right hle, Query.contributions_eq_resemblance f hgs hcovers]

/-- The fingerprint agrees on both tests of `T1` and on the silence of `T2`, accepts the silence of
`T3` as a value, and is silent where the query has an answer of `T4`. -/
theorem scores_eq_resemblance_every_case :
    ∃ d q, (ofText "" "MatchPoints\nT1(R=30%DF=20)\nT2(R=80%W=10)\nT3(R=7)\nT4(R=5)\n
Fingerprint box\nSEQ()\nOPS()\nWIN()\nECN()\nT1(R=Y%DF=N)\nT2()\nT3(R=N|Y)\nT4()\nT5()\nT6()
T7()\nU1()\nIE()").outcome = .ok d ∧
      (Query.ofText "SCAN(V=7)T1(DF=N%R=Y)T2(R=N)T3()T4(R=Y)").outcome = .ok q ∧
      (d.scores q.observations).outcome = .ok [147] ∧
      d.fingerprints.map (d.resemblance q) = [147] := by
  have h : (do
      let d ← (ofText "" "MatchPoints\nT1(R=30%DF=20)\nT2(R=80%W=10)\nT3(R=7)\nT4(R=5)\n
Fingerprint box\nSEQ()\nOPS()\nWIN()\nECN()\nT1(R=Y%DF=N)\nT2()\nT3(R=N|Y)\nT4()\nT5()\nT6()
T7()\nU1()\nIE()").outcome
      let q ← (Query.ofText "SCAN(V=7)T1(DF=N%R=Y)T2(R=N)T3()T4(R=Y)").outcome
      (d.scores q.observations).outcome) = .ok [147] := by decide +kernel
  obtain ⟨d, hd, h⟩ := bind_eq_ok_iff.1 h
  obtain ⟨q, hq, hss⟩ := bind_eq_ok_iff.1 h
  exact ⟨d, q, hd, hq, hss, (scores_eq_resemblance hd hq hss).symm⟩

end Database

end OsDetection
