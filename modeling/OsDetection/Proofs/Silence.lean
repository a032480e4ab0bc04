import OsDetection.Proofs.HighestScore

/-!
# Scoring silence

That a probe got no answer is observed as a value of the responsiveness test, also where the probe
has no such test. A query may spell it in two ways (`Query.observations_of_silentSpelling`). To be
scored it needs points like every observation, although it earns the total of its probe and not
these points: it is scored exactly if the row of the probe has the responsiveness test
(`Database.silence_scored_iff`). That condition cannot be dropped, since a row need not have the
test, and there are probes whose row cannot (`Database.silence_without_points`).
-/

namespace OsDetection

namespace Query

/-- How a query says that a probe got no answer. -/
def silentSpellings (p : Probe) : List String := [p.name ++ "()", p.name ++ "(R=N)"]

/-- Either spelling is read as the silence of the probe. -/
theorem observations_of_silentSpelling {p : Probe} {text : String} (h : text ∈ silentSpellings p) :
    ∃ q, (ofText text).outcome = .ok q ∧ q.observations = [.silence p] := by
  obtain ⟨entries, hspells, hsilent⟩ : ∃ entries, Spells text [⟨p, entries⟩] ∧
      (⟨p, entries⟩ : Group).observations = [.silence p] := by
    simp only [silentSpellings, List.mem_cons, List.not_mem_nil, or_false] at h
    rcases h with rfl | rfl
    · exact ⟨[], by cases p <;> decide +kernel, rfl⟩
    · exact ⟨[(responsiveness, noAnswer)], by cases p <;> decide +kernel, rfl⟩
  refine ⟨_, hspells.outcome_ofText, ?_⟩
  rw [observations_ofGroups, List.flatMap_singleton, hsilent]

end Query

namespace Database

variable {d : Database} {p : Probe} {row : PointRow}

/-- A row that the table of an accepted text has is of a probe that counts, and has no test that the
probe does not accept. -/
theorem row_of_ofText {source text : String} (hd : (ofText source text).outcome = .ok d)
    (hrow : d.points.row? p = some row) :
    ¬ p.isInformational ∧ (responsiveness ∈ row → p.accepts responsiveness) := by
  have hlegal := legal_points_of_ofText hd
  refine ⟨fun hscan => ?_, hlegal.accepted p row responsiveness hrow⟩
  obtain rfl := Probe.isInformational_iff.1 hscan
  rw [hlegal.informational] at hrow
  cases hrow

end Database

namespace Run

variable {r : Run} {p : Probe}

/-- Silence is scored by the points of the responsiveness test, and not without them. -/
theorem outcome_apply_silence {row : PointRow} (hscored : ¬ p.isInformational)
    (hrow : r.database.points.row? p = some row) :
    (r.apply (.silence p)).outcome =
      match row[responsiveness]? with
      | none => .error (.noPoints p responsiveness)
      | some points => .ok (r.award fun f =>
          f.earned (.silence p) points.toNat (r.database.points.total p)) := by
  have hpoints : r.database.points.points? p responsiveness = row[responsiveness]? := by
    simp [PointTable.points?, hrow]
  rw [← hpoints, apply, if_neg (by exact hscored)]
  dsimp only [Observation.silence]
  cases r.database.points.points? p responsiveness <;> rfl

/-- Silence earns a fingerprint that expects it all that the probe is worth. -/
theorem scores_award_silence (total : Nat) {i : Nat} {f : Fingerprint} {score : Nat}
    (hf : r.database.fingerprints[i]? = some f) (hsilent : f.response? p = some .silent)
    (hscore : r.scores[i]? = some score) (points : Nat) :
    (r.award fun f => f.earned (.silence p) points total).scores[i]? =
      some (min (2 ^ 64 - 1) (score + total)) := by
  have hearned : f.earned (.silence p) points total = total := by
    have hresponse : f.response? (Observation.silence p).probe = some .silent := hsilent
    simp [Fingerprint.earned, hresponse]
  simp [award, List.getElem?_zipWith, hf, hscore, hearned, Score.add, Score.limit_eq]

end Run

namespace Database

variable {d : Database} {p : Probe} {row : PointRow}

/-- **When silence is scored.** Where the table of an accepted text has a row for a probe, both
spellings of the probe's silence are queries that observe it, and a run scores it exactly if the row
has the responsiveness test. It then adds the probe's total to each fingerprint that expects
silence. Without the test it is a fault; and no row has it whose probe does not. -/
theorem silence_scored_iff {source text : String} (hd : (ofText source text).outcome = .ok d)
    (hrow : d.points.row? p = some row) {r : Run} (hr : r.database = d) :
    (∀ query ∈ Query.silentSpellings p, ∃ q, (Query.ofText query).outcome = .ok q ∧
      q.observations = [.silence p]) ∧
      ((∃ r', (r.apply (.silence p)).outcome = .ok r') ↔ responsiveness ∈ row) ∧
      (∀ r', (r.apply (.silence p)).outcome = .ok r' →
        ∀ (i : Nat) f score, d.fingerprints[i]? = some f → f.response? p = some .silent →
          r.scores[i]? = some score →
          r'.scores[i]? = some (min (2 ^ 64 - 1) (score + d.points.total p))) ∧
      (responsiveness ∉ row →
        (r.apply (.silence p)).outcome = .error (.noPoints p responsiveness)) ∧
      (¬ p.accepts responsiveness → responsiveness ∉ row) := by
  subst hr
  obtain ⟨hscored, haccepts⟩ := row_of_ofText hd hrow
  have happly := Run.outcome_apply_silence hscored hrow
  refine ⟨fun query => Query.observations_of_silentSpelling, ?_, ?_, ?_, fun h => mt haccepts h⟩
  · rw [happly, Std.ExtTreeMap.mem_iff_isSome_getElem?]
    cases row[responsiveness]? with
    | none => simp
    | some points => simp
  · intro r' hr' i f score hf hsilent hscore
    rw [happly] at hr'
    cases hread : row[responsiveness]? with
    | none => rw [hread] at hr'; cases hr'
    | some points =>
      rw [hread] at hr'
      cases hr'
      exact Run.scores_award_silence _ hf hsilent hscore _
  · intro hrow
    rw [happly, Std.ExtTreeMap.getElem?_eq_none hrow]

/-- The total of `T1` is earned at once, the test `DF` included. -/
theorem silence_scored_t1 :
    ∃ d row r', (ofText "" "MatchPoints\nT1(R=30%DF=20)\n\nFingerprint box\nSEQ()\nOPS()\nWIN()
ECN()\nT1(R=N)\nT2()\nT3()\nT4()\nT5()\nT6()\nT7()\nU1()\nIE()").outcome = .ok d ∧
      d.points.row? .t1 = some row ∧ responsiveness ∈ row ∧
      ((Run.start d).apply (.silence .t1)).outcome = .ok r' ∧ r'.scores[0]? = some 50 := by
  have h : ((ofText "" "MatchPoints\nT1(R=30%DF=20)\n\nFingerprint box\nSEQ()\nOPS()\nWIN()
ECN()\nT1(R=N)\nT2()\nT3()\nT4()\nT5()\nT6()\nT7()\nU1()\nIE()").outcome.map fun d =>
      (d.points.row? .t1, d.points.total .t1, d.fingerprints.map (·.response? .t1))) =
        .ok (some (.ofList [("R", (30 : UInt32)), ("DF", 20)]), 50, [some .silent]) := by
    decide +kernel
  obtain ⟨d, hd, hfacts⟩ := map_eq_ok_iff.1 h
  simp only [Prod.mk.injEq] at hfacts
  obtain ⟨hrow, htotal, hresponses⟩ := hfacts
  obtain ⟨f, hf, hsilent⟩ := List.map_eq_singleton_iff.1 hresponses
  have hresponsive : responsiveness ∈ (.ofList [("R", (30 : UInt32)), ("DF", 20)] : PointRow) := by
    decide +kernel
  obtain ⟨-, hscored, hscores, -⟩ := silence_scored_iff hd hrow (rfl : (Run.start d).database = d)
  obtain ⟨r', hr'⟩ := hscored.2 hresponsive
  have hfirst := hscores r' hr' 0 f 0 (by simp [hf]) hsilent (by simp [Run.start, hf])
  exact ⟨d, _, r', hd, hrow, hresponsive, hr', by simpa [htotal] using hfirst⟩

/-- A row without the responsiveness test, of a probe that has no such test: the fingerprint expects
the silence that the query observes, and scoring it is a fault. -/
theorem silence_without_points :
    ∃ d q, (ofText "" "MatchPoints\nOPS(O1=20)\n\nFingerprint box\nSEQ()\nOPS()\nWIN()\nECN()
T1()\nT2()\nT3()\nT4()\nT5()\nT6()\nT7()\nU1()\nIE()").outcome = .ok d ∧
      (d.points.row? .ops).isSome ∧ d.fingerprints.map (·.response? .ops) = [some .silent] ∧
      (Query.ofText "OPS()").outcome = .ok q ∧
      (d.scores q.observations).outcome = .error (.noPoints .ops responsiveness) := by
  have h : ((ofText "" "MatchPoints\nOPS(O1=20)\n\nFingerprint box\nSEQ()\nOPS()\nWIN()\nECN()
T1()\nT2()\nT3()\nT4()\nT5()\nT6()\nT7()\nU1()\nIE()").outcome.map fun d =>
      ((d.points.row? .ops).isSome, d.fingerprints.map (·.response? .ops),
        (d.scores [.silence .ops]).outcome)) =
      .ok (true, [some .silent], .error (.noPoints .ops responsiveness)) := by decide +kernel
  obtain ⟨d, hd, hfacts⟩ := map_eq_ok_iff.1 h
  simp only [Prod.mk.injEq] at hfacts
  obtain ⟨hrow, hresponses, hfault⟩ := hfacts
  obtain ⟨q, hq, hobservations⟩ : ∃ q, (Query.ofText "OPS()").outcome = .ok q ∧
      q.observations = [.silence .ops] := Query.observations_of_silentSpelling (by decide)
  exact ⟨d, q, hd, hrow, hresponses, hq, hobservations ▸ hfault⟩

end Database

end OsDetection
