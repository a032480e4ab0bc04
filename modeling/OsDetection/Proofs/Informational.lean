import OsDetection.Proofs.Ranking
import OsDetection.Proofs.Scores

/-!
# Scores without the scan

The group that describes the scan itself is no evidence about the system: observations of it are
passed over (`Database.outcome_scores_evidence`), and what a fingerprint says about it is not looked
at (`Database.outcome_scores_withoutScan`). The second is a case of what holds of all changes to the
fingerprints that keep their other responses (`Database.outcome_scores_mapFingerprints`), and the
best matches then change as the entries of the fingerprints do
(`Database.outcome_bestMatches_mapFingerprints`).
-/

namespace OsDetection

/-! ## What is forgotten -/

/-- A fingerprint without what it says about the scan itself. -/
def Fingerprint.withoutScan (f : Fingerprint) : Fingerprint :=
  { f with responses := f.responses.erase .scan }

/-- The observations that are evidence, which those of the scan itself are not. -/
def evidence (os : List Observation) : List Observation :=
  os.filter (!·.probe.isInformational)

/-- Other probes are kept. -/
theorem Fingerprint.response?_withoutScan (f : Fingerprint) {p : Probe} (hp : p ≠ .scan) :
    f.withoutScan.response? p = f.response? p := by
  simp [withoutScan, response?, Std.ExtTreeMap.getElem?_erase, Ne.symm hp]

/-- Ranking takes from a fingerprint what its entry shows and nothing else. -/
theorem rank_map {g : Fingerprint → Fingerprint} {h : Ranked → Ranked} {most : Nat}
    (hshown : ∀ f s, Ranked.ofScore most (g f) s = h (.ofScore most f s))
    (fingerprints : List Fingerprint) (scores : List Nat) (limit : Nat) :
    rank (fingerprints.map g) scores most limit = (rank fingerprints scores most limit).map h := by
  have hsort := @List.map_mergeSort _ _ (fun a b : Fingerprint × Nat => decide (b.2 ≤ a.2))
    (fun a b : Fingerprint × Nat => decide (b.2 ≤ a.2)) (Prod.map g id) (fingerprints.zip scores)
    (fun a _ b _ => rfl)
  rw [rank, rank, List.zip_map_left, ← hsort, ← List.map_take, List.map_map, List.map_map]
  exact List.map_congr_left fun entry _ => hshown entry.1 entry.2

namespace Database

/-- A database with its fingerprints changed. -/
def mapFingerprints (g : Fingerprint → Fingerprint) (d : Database) : Database :=
  { d with fingerprints := d.fingerprints.map g }

/-- A database without what its fingerprints say about the scan itself. -/
def withoutScan (d : Database) : Database := d.mapFingerprints (·.withoutScan)

variable (d : Database) (os : List Observation)

section
variable {g : Fingerprint → Fingerprint}
  (hkept : ∀ f p, p ≠ .scan → (g f).response? p = f.response? p)
include hkept

/-- Only the responses to the other probes count. -/
theorem contribution_mapFingerprints (f : Fingerprint) (o : Observation) :
    (d.mapFingerprints g).contribution (g f) o = d.contribution f o := by
  unfold contribution
  split
  · rfl
  · next hprobe =>
    have hresponse := hkept f o.probe (mt Probe.isInformational_iff.2 hprobe)
    simp only [mapFingerprints, Fingerprint.earned, hresponse]

/-- Changes that keep these responses change no score. -/
theorem outcome_scores_mapFingerprints :
    ((d.mapFingerprints g).scores os).outcome = (d.scores os).outcome := by
  have hcovers : (d.mapFingerprints g).covers = d.covers := rfl
  have hcontributions (f : Fingerprint) :
      (d.mapFingerprints g).contributions (g f) os = d.contributions f os :=
    congrArg List.sum (List.map_congr_left fun o _ => d.contribution_mapFingerprints hkept f o)
  have hscores : ((d.mapFingerprints g).fingerprints.map fun f =>
      min Score.limit ((d.mapFingerprints g).contributions f os)) =
        d.fingerprints.map fun f => min Score.limit (d.contributions f os) := by
    rw [mapFingerprints, List.map_map]
    exact List.map_congr_left fun f _ => congrArg (min Score.limit) (hcontributions f)
  rw [outcome_scores, outcome_scores, hcovers, hscores]

/-- The best matches change as their entries do. -/
theorem outcome_bestMatches_mapFingerprints {h : Ranked → Ranked}
    (hshown : ∀ f s, Ranked.ofScore d.points.most (g f) s = h (.ofScore d.points.most f s))
    (limit : Nat) :
    ((d.mapFingerprints g).bestMatches os limit).outcome =
      (d.bestMatches os limit).outcome.map (·.map h) := by
  rw [outcome_bestMatches, outcome_bestMatches, d.outcome_scores_mapFingerprints os hkept]
  cases (d.scores os).outcome with
  | error fault => rfl
  | ok ss => exact congrArg Except.ok (rank_map hshown d.fingerprints ss limit)

end

/-- Observations of the scan itself contribute nothing. -/
theorem contributions_evidence (f : Fingerprint) :
    d.contributions f (evidence os) = d.contributions f os := by
  induction os with
  | nil => rfl
  | cons o os ih =>
    unfold contributions evidence at ih ⊢
    by_cases hprobe : o.probe.isInformational
    · rw [List.filter_cons_of_neg (by simp [hprobe]), ih, List.map_cons, List.sum_cons]
      simp [contribution, hprobe]
    · rw [List.filter_cons_of_pos (by simp [hprobe]), List.map_cons, List.sum_cons, ih,
        List.map_cons, List.sum_cons]

/-- Observations of the scan itself change no score and cause no fault. -/
theorem outcome_scores_evidence :
    (d.scores (evidence os)).outcome = (d.scores os).outcome := by
  have hcovers : (fun o : Observation => decide ((!o.probe.isInformational) = true ∧
      (!d.covers o) = true)) = fun o => !d.covers o := by
    funext o
    rw [Bool.eq_iff_iff, decide_eq_true_eq, covers, Bool.not_eq_true', Bool.not_eq_true',
      Bool.or_eq_false_iff]
    exact and_iff_right_of_imp And.left
  simp only [outcome_scores, contributions_evidence]
  rw [evidence, List.find?_filter, hcovers]

/-- Nor do they change the best matches. -/
theorem outcome_bestMatches_evidence (limit : Nat) :
    (d.bestMatches (evidence os) limit).outcome =
      (d.bestMatches os limit).outcome := by
  rw [outcome_bestMatches, outcome_bestMatches, outcome_scores_evidence]

/-- What the fingerprints say about the scan changes no score. -/
theorem outcome_scores_withoutScan :
    (d.withoutScan.scores os).outcome = (d.scores os).outcome :=
  d.outcome_scores_mapFingerprints os fun f _ hp => f.response?_withoutScan hp

/-- Nor does it change the best matches. -/
theorem outcome_bestMatches_withoutScan (limit : Nat) :
    (d.withoutScan.bestMatches os limit).outcome = (d.bestMatches os limit).outcome := by
  have hshown (f : Fingerprint) (s : Nat) : Ranked.ofScore d.points.most f.withoutScan s =
      id (.ofScore d.points.most f s) := rfl
  rw [withoutScan, d.outcome_bestMatches_mapFingerprints os
    (fun f _ hp => f.response?_withoutScan hp) hshown]
  cases (d.bestMatches os limit).outcome with
  | error fault => rfl
  | ok ms => exact congrArg Except.ok (List.map_id ms)

/-! ## Two runs -/

section
variable {d os} {d' : Database} {os' : List Observation} (hd : d'.withoutScan = d.withoutScan)
  (hos : evidence os' = evidence os)
include hd hos

/-- Databases and observations that are the same without the scan come to the same scores or the
same fault. -/
theorem outcome_scores_eq_of_evidence : (d'.scores os').outcome = (d.scores os).outcome := by
  calc (d'.scores os').outcome
      = (d'.withoutScan.scores (evidence os')).outcome := by
        rw [outcome_scores_withoutScan, outcome_scores_evidence]
    _ = (d.withoutScan.scores (evidence os)).outcome := by rw [hd, hos]
    _ = (d.scores os).outcome := by rw [outcome_scores_withoutScan, outcome_scores_evidence]

/-- And to the same best matches. -/
theorem outcome_bestMatches_eq_of_evidence (limit : Nat) :
    (d'.bestMatches os' limit).outcome = (d.bestMatches os limit).outcome := by
  calc (d'.bestMatches os' limit).outcome
      = (d'.withoutScan.bestMatches (evidence os') limit).outcome := by
        rw [outcome_bestMatches_withoutScan, outcome_bestMatches_evidence]
    _ = (d.withoutScan.bestMatches (evidence os) limit).outcome := by rw [hd, hos]
    _ = (d.bestMatches os limit).outcome := by
        rw [outcome_bestMatches_withoutScan, outcome_bestMatches_evidence]

end

end Database

end OsDetection
