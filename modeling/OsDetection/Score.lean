import OsDetection.Fault
import OsDetection.Fingerprint
import OsDetection.Logged
import OsDetection.Numeral.Digits

/-!
# Scores

An observation earns a fingerprint the points of its test if the fingerprint has a pattern for the
test that accepts the value; and where an observed silence is what the fingerprint expects, it earns
everything the probe is worth. Scores are kept in a run over a database, one for each fingerprint,
and stop at the largest 64-bit number. An observation of a test without points is a fault, which
leaves the scores as they were.
-/

namespace OsDetection

/-- The largest score. -/
def Score.limit : Nat := Numeral.limit 64 - 1

/-- A score with points added, as far as the largest score. -/
def Score.add (score points : Nat) : Nat := min Score.limit (score + points)

/-- What an observation earns a fingerprint, given what its test and its probe are worth. -/
def Fingerprint.earned (f : Fingerprint) (o : Observation) (points total : Nat) : Nat :=
  match f.response? o.probe with
  | none => 0
  | some .silent => if o.isSilence then total else 0
  | some (.answered tests) =>
    match tests[o.test]? with
    | some pattern => if pattern.accepts o.value then points else 0
    | none => 0

/-- The scores of the fingerprints of a database, in their order. -/
structure Run where
  database : Database
  scores : List Nat
  deriving DecidableEq

namespace Run

/-- Every fingerprint begins at zero. -/
def start (d : Database) : Run := ⟨d, d.fingerprints.map fun _ => 0⟩

/-- The run after the fingerprints have earned something each. -/
def award (r : Run) (earned : Fingerprint → Nat) : Run :=
  { r with
    scores := List.zipWith (fun f score => Score.add score (earned f)) r.database.fingerprints
      r.scores }

/-- Scores an observation against every fingerprint. -/
def apply (r : Run) (o : Observation) : Logged Fault Run :=
  if o.probe.isInformational then do
    Logged.note (.passedOver o)
    return r
  else
    match r.database.points.points? o.probe o.test with
    | none => Logged.fail (.noPoints o.probe o.test)
    | some points =>
      let total := r.database.points.total o.probe
      return r.award fun f => f.earned o points.toNat total

/-- Scores observations in order up to the first fault, and gives the run it came to beside the
outcome. -/
def applyEach (r : Run) : List Observation → Run × Logged Fault Unit
  | [] => (r, return ())
  | o :: os =>
    match r.apply o with
    | ⟨notices, .error fault⟩ => (r, ⟨notices, .error fault⟩)
    | ⟨notices, .ok next⟩ =>
      let (last, rest) := next.applyEach os
      (last, ⟨notices ++ rest.notices, rest.outcome⟩)

/-- Scores observations in order, as far as they have points. -/
def applyAll (r : Run) (os : List Observation) : Run × Logged Fault Unit :=
  let (last, outcome) := r.applyEach os
  (last, do
    outcome
    Logged.note (.scored os.length r.database.fingerprints.length))

end Run

namespace Database

/-- The score of each fingerprint for a sequence of observations. -/
def scores (d : Database) (os : List Observation) : Logged Fault (List Nat) :=
  let (last, outcome) := (Run.start d).applyAll os
  do
    outcome
    return last.scores

end Database

end OsDetection
