import Mathlib.Algebra.GroupWithZero.Nat
import Mathlib.Data.List.TakeWhile
import OsDetection.Proofs.Folds
import OsDetection.Score

/-!
# What a run comes to

A run over a database adds up, for each fingerprint, what the observations contribute
(`Database.contribution`), up to the first observation without points (`Database.covers`). The run
after some observations has a closed form, `Run.after`: every score is their sum, cut off at the
largest score once. A step from there is a step of the sum (`Run.outcome_apply_after`), so that the
same holds of steps in a row (`Run.applyEach_after`, `Run.outcome_applyEach_after`) and of the
scores of a sequence of observations (`Database.outcome_scores_eq_ok_iff`).
-/

namespace OsDetection

/-- The largest score is the largest 64-bit number. -/
theorem Score.limit_eq : Score.limit = 2 ^ 64 - 1 := by
  decide +kernel

namespace Database

/-- Whether an observation can be scored. One that is only informational needs no points. -/
def covers (d : Database) (o : Observation) : Bool :=
  o.probe.isInformational || (d.points.points? o.probe o.test).isSome

/-- An observation that counts and can be scored has points. -/
theorem exists_points_of_covers {d : Database} {o : Observation}
    (hprobe : ¬o.probe.isInformational) (h : d.covers o) :
    ∃ points, d.points.points? o.probe o.test = some points := by
  simpa [covers, hprobe, Option.isSome_iff_exists] using h

/-- What an observation adds to the score of a fingerprint. -/
def contribution (d : Database) (f : Fingerprint) (o : Observation) : Nat :=
  if o.probe.isInformational then 0
  else
    match d.points.points? o.probe o.test with
    | none => 0
    | some points => f.earned o points.toNat (d.points.total o.probe)

theorem contribution_eq_earned {d : Database} {o : Observation} {points : UInt32}
    (hprobe : ¬o.probe.isInformational) (hpoints : d.points.points? o.probe o.test = some points)
    (f : Fingerprint) :
    d.contribution f o = f.earned o points.toNat (d.points.total o.probe) := by
  rw [contribution, if_neg hprobe, hpoints]

/-- The exact sum of what observations add to the score of a fingerprint. -/
def contributions (d : Database) (f : Fingerprint) (os : List Observation) : Nat :=
  (os.map (d.contribution f)).sum

@[simp] theorem contributions_nil (d : Database) (f : Fingerprint) : d.contributions f [] = 0 := rfl

@[simp] theorem contributions_append (d : Database) (f : Fingerprint) (os os' : List Observation) :
    d.contributions f (os ++ os') = d.contributions f os + d.contributions f os' := by
  simp [contributions]

theorem contributions_singleton (d : Database) (f : Fingerprint) (o : Observation) :
    d.contributions f [o] = d.contribution f o := by
  simp [contributions]

end Database

namespace Run

/-- The run after observations that could all be scored. -/
def after (d : Database) (os : List Observation) : Run :=
  ⟨d, d.fingerprints.map fun f => min Score.limit (d.contributions f os)⟩

variable (d : Database) (before os : List Observation) (o : Observation)

theorem start_eq_after : start d = after d [] := by
  simp [start, after]

/-- Adding to the cut off sum is adding to the sum. -/
theorem award_after :
    (after d before).award (d.contribution · o) = after d (before ++ [o]) := by
  simp only [award, after, List.zipWith_map_right, List.zipWith_self, mk.injEq, true_and]
  refine List.map_congr_left fun f _ => ?_
  rw [Database.contributions_append, Database.contributions_singleton, Score.add]
  omega

/-- One more observation is scored exactly if it has points. -/
theorem outcome_apply_after :
    ((after d before).apply o).outcome =
      if d.covers o then .ok (after d (before ++ [o])) else .error (.noPoints o.probe o.test) := by
  unfold apply
  split
  · next hprobe =>
    have hzero : ∀ f, d.contribution f o = 0 := fun f => by simp [Database.contribution, hprobe]
    simp [Database.covers, hprobe, after, Database.contributions_singleton, hzero]
    rfl
  · next hprobe =>
    rw [← award_after]
    cases hpoints : d.points.points? o.probe o.test with
    | none => simp [Database.covers, hprobe, hpoints, after]
    | some points => simp [Database.covers, Database.contribution, hprobe, hpoints, after]

/-! ## Steps in a row -/

/-- After a step the others follow. -/
theorem applyEach_cons_of_ok {r next : Run} (h : (r.apply o).outcome = .ok next) :
    (r.applyEach (o :: os)).1 = (next.applyEach os).1 ∧
      (r.applyEach (o :: os)).2.outcome = (next.applyEach os).2.outcome := by
  unfold applyEach
  cases hr : r.apply o with
  | mk notices outcome =>
    rw [hr] at h
    cases h
    cases os <;> exact ⟨rfl, rfl⟩

/-- A fault is the last step, and leaves the run as it was. -/
theorem applyEach_cons_of_error {r : Run} {fault : Fault} (h : (r.apply o).outcome = .error fault) :
    (r.applyEach (o :: os)).1 = r ∧ (r.applyEach (o :: os)).2.outcome = .error fault := by
  unfold applyEach
  cases hr : r.apply o with
  | mk notices outcome =>
    rw [hr] at h
    cases h
    exact ⟨rfl, rfl⟩

/-- Observations in a row are scored up to the first that cannot be. -/
theorem applyEach_after :
    ((after d before).applyEach os).1 = after d (before ++ os.takeWhile d.covers) := by
  induction os generalizing before with
  | nil => simp [applyEach]
  | cons o os ih =>
    have h := outcome_apply_after d before o
    cases hcovers : d.covers o with
    | false =>
      rw [hcovers, if_neg nofun] at h
      rw [(applyEach_cons_of_error os o h).1, List.takeWhile_cons_of_neg (by simp [hcovers]),
        List.append_nil]
    | true =>
      rw [hcovers, if_pos rfl] at h
      rw [(applyEach_cons_of_ok os o h).1, ih, List.takeWhile_cons_of_pos hcovers,
        List.append_assoc, List.singleton_append]

/-- The first that cannot be scored is the fault. -/
theorem outcome_applyEach_after :
    ((after d before).applyEach os).2.outcome =
      match os.find? (!d.covers ·) with
      | none => .ok ()
      | some o => .error (.noPoints o.probe o.test) := by
  induction os generalizing before with
  | nil => rfl
  | cons o os ih =>
    have h := outcome_apply_after d before o
    cases hcovers : d.covers o with
    | false =>
      rw [hcovers, if_neg nofun] at h
      rw [(applyEach_cons_of_error os o h).2, List.find?_cons_of_pos (by simp [hcovers])]
    | true =>
      rw [hcovers, if_pos rfl] at h
      rw [(applyEach_cons_of_ok os o h).2, ih, List.find?_cons_of_neg (by simp [hcovers])]

end Run

namespace Database

/-- Scoring adds up what the observations contribute, unless one cannot be scored. -/
theorem outcome_scores (d : Database) (os : List Observation) :
    (d.scores os).outcome =
      match os.find? (!d.covers ·) with
      | none => .ok (d.fingerprints.map fun f => min Score.limit (d.contributions f os))
      | some o => .error (.noPoints o.probe o.test) := by
  have hlast := Run.applyEach_after d [] os
  have houtcome := Run.outcome_applyEach_after d [] os
  rw [← Run.start_eq_after] at hlast houtcome
  simp only [scores, Run.applyAll, Logged.outcome_bind, hlast, houtcome]
  cases hfind : os.find? (!d.covers ·) with
  | some o => rfl
  | none =>
    have hcovers : ∀ o ∈ os, d.covers o := by simpa [List.find?_eq_none] using hfind
    rw [List.takeWhile_eq_self_iff.2 hcovers]
    rfl

/-- Scoring succeeds exactly if every observation can be scored. -/
theorem outcome_scores_eq_ok_iff {d : Database} {os : List Observation} {ss : List Nat} :
    (d.scores os).outcome = .ok ss ↔
      (∀ o ∈ os, d.covers o) ∧
        ss = d.fingerprints.map fun f => min Score.limit (d.contributions f os) := by
  rw [outcome_scores]
  cases hfind : os.find? (!d.covers ·) with
  | some o =>
    have hcovers := List.find?_some hfind
    refine ⟨nofun, fun h => ?_⟩
    simp [h.1 o (List.mem_of_find?_eq_some hfind)] at hcovers
  | none =>
    have hcovers : ∀ o ∈ os, d.covers o := by simpa [List.find?_eq_none] using hfind
    exact ⟨fun h => ⟨hcovers, (Except.ok.inj h).symm⟩, fun h => h.2 ▸ rfl⟩

end Database

end OsDetection
