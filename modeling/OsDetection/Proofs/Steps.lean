import OsDetection.Proofs.Points
import OsDetection.Proofs.Scores

/-!
# Steps of a run

A run is asked to score observations step by step, one observation or several in a row
(`Run.Step`). A step ends at its first observation without points (`Database.ending`) and keeps what
it scored before (`Database.scored`); the next step goes on from there. Since each step leads from
one sum to another (`Run.take_after`), so does a sequence of them (`Run.takeEach_after`): whatever
failed on the way, the scores are what the scored observations add up to, cut off once. What each of
them adds is said case by case in `Database.Earns`, and which of them are scored by the entries of
the point table (`Database.covers_iff_mem_entries`).
-/

namespace OsDetection

namespace Run

/-- What a run is asked to score at a time. -/
inductive Step where
  | one (o : Observation)
  | several (os : List Observation)
  deriving DecidableEq

/-- The observations of a step, in order. -/
def Step.observations : Step → List Observation
  | one o => [o]
  | several os => os

/-- The run after a step, and how the step ended. There is no run after a single observation that
failed, so that the run before it goes on. -/
def take (r : Run) : Step → Run × Except Fault Unit
  | .one o =>
    match (r.apply o).outcome with
    | .ok next => (next, .ok ())
    | .error fault => (r, .error fault)
  | .several os => ((r.applyAll os).1, (r.applyAll os).2.outcome)

/-- The run after steps in order, and how each of them ended. -/
def takeEach (r : Run) : List Step → Run × List (Except Fault Unit)
  | [] => (r, [])
  | s :: ss =>
    let (next, outcome) := r.take s
    let (last, outcomes) := next.takeEach ss
    (last, outcome :: outcomes)

end Run

namespace Database

variable (d : Database)

/-- The observations that a step scores: those before the first that cannot be. -/
def scored (s : Run.Step) : List Observation := s.observations.takeWhile d.covers

/-- How a step ends: with a fault if it has an observation that cannot be scored, and the fault is
that of the first one. -/
def ending (s : Run.Step) : Except Fault Unit :=
  match s.observations.find? (!d.covers ·) with
  | none => .ok ()
  | some o => .error (.noPoints o.probe o.test)

/-- What an observation that can be scored earns a fingerprint, case by case. -/
inductive Earns (f : Fingerprint) (o : Observation) : Nat → Prop
  | informational (scan : o.probe = .scan) : Earns f o 0
  | undefined (counts : o.probe ≠ .scan) (undefined : f.response? o.probe = none) : Earns f o 0
  /-- The probe got no answer, as the fingerprint expects. -/
  | silence (counts : o.probe ≠ .scan) (silent : f.response? o.probe = some .silent)
    (agrees : o = .silence o.probe) : Earns f o (d.points.total o.probe)
  /-- The probe was answered, which the fingerprint does not expect. -/
  | answer (counts : o.probe ≠ .scan) (silent : f.response? o.probe = some .silent)
    (differs : o ≠ .silence o.probe) : Earns f o 0
  | untested {tests : TestMap Pattern} (counts : o.probe ≠ .scan)
    (answered : f.response? o.probe = some (.answered tests)) (untested : tests[o.test]? = none) :
    Earns f o 0
  | accepted {tests : TestMap Pattern} {pattern : Pattern} {points : UInt32}
    (counts : o.probe ≠ .scan) (answered : f.response? o.probe = some (.answered tests))
    (tested : tests[o.test]? = some pattern) (accepts : pattern.accepts o.value)
    (worth : d.points.points? o.probe o.test = some points) : Earns f o points.toNat
  | refused {tests : TestMap Pattern} {pattern : Pattern} (counts : o.probe ≠ .scan)
    (answered : f.response? o.probe = some (.answered tests))
    (tested : tests[o.test]? = some pattern) (refuses : ¬ pattern.accepts o.value) : Earns f o 0

variable {d}

/-- An observation can be scored exactly if it is informational or its test is in the table. -/
theorem covers_iff_mem_entries {o : Observation} :
    d.covers o ↔ o.probe = .scan ∨ ∃ points, (o.probe, o.test, points) ∈ d.points.entries := by
  simp only [covers, Bool.or_eq_true, Probe.isInformational_iff, Option.isSome_iff_exists,
    PointTable.mem_entries_iff]

/-- What an observation adds to a score is what it earns. -/
theorem earns_contribution (f : Fingerprint) {o : Observation} (h : d.covers o) :
    d.Earns f o (d.contribution f o) := by
  by_cases hprobe : o.probe = .scan
  · rw [contribution, if_pos (Probe.isInformational_iff.2 hprobe)]
    exact .informational hprobe
  · have hscored := mt Probe.isInformational_iff.1 hprobe
    obtain ⟨points, hpoints⟩ := exists_points_of_covers hscored h
    rw [contribution_eq_earned hscored hpoints, Fingerprint.earned]
    cases hresponse : f.response? o.probe with
    | none => exact .undefined hprobe hresponse
    | some response =>
      cases response with
      | silent =>
        dsimp only
        split
        · next hsilence => exact .silence hprobe hresponse (Observation.isSilence_iff.1 hsilence)
        · next hanswer =>
          exact .answer hprobe hresponse fun h => hanswer (Observation.isSilence_iff.2 h)
      | answered tests =>
        dsimp only
        cases htest : tests[o.test]? with
        | none => exact .untested hprobe hresponse htest
        | some pattern =>
          dsimp only
          split
          · next haccepts => exact .accepted hprobe hresponse htest haccepts hpoints
          · next hrefuses => exact .refused hprobe hresponse htest hrefuses

end Database

namespace Run

variable (d : Database) (before : List Observation)

/-- After some observations, a step adds those that it scores. -/
theorem take_after (s : Step) :
    (after d before).take s = (after d (before ++ d.scored s), d.ending s) := by
  cases s with
  | one o =>
    rw [take, outcome_apply_after]
    cases hcovers : d.covers o with
    | false => simp [Database.scored, Database.ending, Step.observations, hcovers]
    | true => simp [Database.scored, Database.ending, Step.observations, hcovers]
  | several os =>
    have hlast := applyEach_after d before os
    have houtcome := outcome_applyEach_after d before os
    simp only [take, applyAll, Logged.outcome_bind, hlast, houtcome, Logged.outcome_note,
      Database.scored, Database.ending, Step.observations]
    cases os.find? (!d.covers ·) <;> rfl

/-- After some observations, steps add what each of them scores. -/
theorem takeEach_after (ss : List Step) :
    (after d before).takeEach ss = (after d (before ++ ss.flatMap d.scored), ss.map d.ending) := by
  induction ss generalizing before with
  | nil => simp [takeEach]
  | cons s ss ih => simp [takeEach, take_after, ih]

/-- **Scores add up.** After any steps there is one score for each fingerprint, and it is the sum of
what was earned by the observations that were scored, as far as the largest 64-bit number. A step
fails exactly if one of its observations has no points, with the fault of the first one; what it
scored before that is kept, and a failing observation alone changes nothing. Which observations have
points, how many, and what a probe is worth is told by the entries of the table. -/
theorem takeEach_adds_up (ss : List Step) :
    let r := ((start d).takeEach ss).1
    r.database = d ∧ r.scores.length = d.fingerprints.length ∧
      ((start d).takeEach ss).2 = ss.map d.ending ∧
      (∀ i : Nat, r.scores[i]? = d.fingerprints[i]?.map fun f =>
        min (2 ^ 64 - 1) (d.contributions f (ss.flatMap d.scored))) ∧
      (∀ f o, d.covers o → d.Earns f o (d.contribution f o)) ∧
      (∀ o, ¬ d.covers o → r.take (.one o) = (r, .error (.noPoints o.probe o.test))) ∧
      (∀ o, d.covers o ↔
        o.probe = .scan ∨ ∃ points, (o.probe, o.test, points) ∈ d.points.entries) ∧
      (∀ p test points, d.points.points? p test = some points ↔
        (p, test, points) ∈ d.points.entries) ∧
      ∀ p, d.points.total p = PointTable.worth (d.points.entries.filter (·.1 = p)) := by
  rw [start_eq_after, takeEach_after, List.nil_append]
  refine ⟨rfl, by simp [after], rfl, fun i => ?_, fun f o => Database.earns_contribution f,
    fun o ho => ?_, fun o => Database.covers_iff_mem_entries,
    fun p test points => d.points.mem_entries_iff.symm, d.points.total_eq_worth_filter⟩
  · rw [after, List.getElem?_map, Score.limit_eq]
  · rw [take_after]
    simp [Database.scored, Database.ending, Step.observations, ho]

/-- A step keeps what it scored before it failed, and the next ones go on from there. -/
theorem takeEach_adds_up_after_faults :
    let box : Fingerprint := ⟨"box", "", "", 1, (∅ : ProbeMap _).insert .t1 .silent⟩
    let d : Database := ⟨[box], PointTable.empty.insert .t1 (.ofList [("R", (30 : UInt32))])⟩
    let r := (start d).takeEach [.several [.silence .t1, ⟨.t1, "DF", "Y"⟩, .silence .t1],
      .one (.silence .t2), .several [⟨.scan, "V", "1"⟩, .silence .t1]]
    r.1.scores = [60] ∧
      r.2 = [.error (.noPoints .t1 "DF"), .error (.noPoints .t2 "R"), .ok ()] ∧
      r.1.take (.one (.silence .t2)) = (r.1, .error (.noPoints .t2 "R")) ∧
      (.t1, "R", 30) ∈ d.points.entries := by
  intro box d r
  obtain ⟨-, -, hendings, hscores, -, hunscored, -, hentries, -⟩ :=
    takeEach_adds_up d [.several [.silence .t1, ⟨.t1, "DF", "Y"⟩, .silence .t1],
      .one (.silence .t2), .several [⟨.scan, "V", "1"⟩, .silence .t1]]
  refine ⟨List.ext_getElem? fun i => ?_, hendings.trans (by decide +kernel),
    hunscored (.silence .t2) (by decide +kernel), (hentries _ _ _).1 (by decide +kernel)⟩
  rw [hscores i]
  cases i with
  | zero => decide +kernel
  | succ i => rfl

end Run

end OsDetection
