import OsDetection.Numeral.Places
import OsDetection.Query.Reader
import OsDetection.Score

/-!
# Ranking

Fingerprints are ranked by their scores, the highest first; those with equal scores keep the order
of the database. A ranked fingerprint carries its score, also as a share of the most that could be
earned.
-/

namespace OsDetection

open OsDetection.Numeral

/-- A score as a percentage of the most that can be earned; zero if nothing can. -/
def percentage (score most : Nat) : Binary64 :=
  if most = 0 then .zero else .ofNat score / .ofNat most * .ofNat 100

/-- A fingerprint with its score. -/
structure Ranked where
  name : String
  classes : String
  cpe : String
  line : Nat
  score : Nat
  percent : Binary64
  deriving DecidableEq, Repr

namespace Ranked

/-- A fingerprint that earned a score where `most` could be earned. -/
def ofScore (most : Nat) (f : Fingerprint) (score : Nat) : Ranked :=
  ⟨f.name, f.classes, f.cpe, f.line, score, percentage score most⟩

/-- Percentage and name in one line. -/
def text (m : Ranked) : String :=
  "[" ++ m.percent.fixed 2 ++ "%] " ++ m.name

end Ranked

/-- How many fingerprints are reported unless the caller says otherwise. -/
def defaultLimit : Nat := 10

/-- The best fingerprints, `limit` at most, each with the score at its place. A fingerprint without
a score and a score without a fingerprint are left out. -/
def rank (fingerprints : List Fingerprint) (scores : List Nat) (most limit : Nat) : List Ranked :=
  (((fingerprints.zip scores).mergeSort fun a b => b.2 ≤ a.2).take limit).map fun entry =>
    .ofScore most entry.1 entry.2

namespace Database

/-- The fingerprints that match a sequence of observations best. -/
def bestMatches (d : Database) (os : List Observation) (limit : Nat) :
    Logged Fault (List Ranked) := do
  let scores ← d.scores os
  return rank d.fingerprints scores d.points.most limit

/-- The fingerprints that match a written query best. -/
def matchQuery (d : Database) (text : String) (limit : Nat) : Logged Fault (List Ranked) := do
  let query ← Query.ofText text
  d.bestMatches query.observations limit

end Database

end OsDetection
