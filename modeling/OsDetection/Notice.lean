import OsDetection.Observation
import OsDetection.Text.Shielded

/-!
# Notices

What a run tells about its progress, besides its result. Every notice has a level of importance,
an origin among the parts of the program, a message, and maybe some named values beside the message.
-/

namespace OsDetection

/-- The importance of a notice, the most important first. -/
inductive Level where
  | error | warn | info | debug | trace
  deriving DecidableEq, Repr

namespace Level

def name : Level → String
  | error => "ERROR"
  | warn => "WARN"
  | info => "INFO"
  | debug => "DEBUG"
  | trace => "TRACE"

/-- The place of a level in order of importance, from one; zero is left for "none". -/
def rank : Level → Nat
  | error => 1
  | warn => 2
  | info => 3
  | debug => 4
  | trace => 5

end Level

/-- Something worth telling about a run. -/
inductive Notice where
  /-- A database file is about to be read. -/
  | loading (path : String)
  /-- A database line gives a test of a group a second time; the later pattern counts. -/
  | repeatedTest (source : String) (line : Nat) (test : String) (probe : Probe)
  /-- The point table was read. -/
  | pointsRead (most : Nat)
  /-- A fingerprint was read. -/
  | fingerprintRead (name : String) (line : Nat)
  /-- A database was read to its end. -/
  | databaseRead (fingerprints : Nat) (source : String) (most : Nat)
  /-- A query gives a test of a group a second time; the later value counts. -/
  | repeatedObservation (line : Nat) (test : String) (probe : Probe)
  /-- A group of a query was read. -/
  | groupRead (probe : Probe) (observations : Nat)
  /-- A query was read to its end. -/
  | queryRead (observations : Nat)
  /-- An observation was passed over because its probe carries no evidence. -/
  | passedOver (o : Observation)
  /-- Every observation was scored against every fingerprint. -/
  | scored (observations fingerprints : Nat)
  deriving DecidableEq, Repr

namespace Notice

def level : Notice → Level
  | repeatedTest .. | repeatedObservation .. => .warn
  | loading _ | databaseRead .. => .info
  | pointsRead _ | fingerprintRead .. | groupRead .. | queryRead _ | scored .. => .debug
  | passedOver _ => .trace

/-- The part of the program that a notice comes from. -/
def origin : Notice → String
  | loading _ | queryRead _ => "osmatch::runner"
  | repeatedTest .. | pointsRead _ | fingerprintRead .. | databaseRead .. =>
    "osmatch_fingerprint::loader"
  | repeatedObservation .. | groupRead .. => "osmatch_fingerprint::query"
  | passedOver _ | scored .. => "osmatch_fingerprint::engine"

/-- What a notice says. -/
def message : Notice → String
  | loading path => s!"Loading fingerprint database {path}"
  | repeatedTest source line test probe =>
    s!"{source}:{line}: duplicate test {test} in group {probe}"
  | pointsRead _ => "read MatchPoints"
  | fingerprintRead .. => "registered fingerprint"
  | databaseRead fingerprints source most =>
    s!"Loaded {fingerprints} fingerprints from {source} (max {most} points)"
  | repeatedObservation line test probe =>
    s!"line {line}: duplicate test {test} in query group {probe}"
  | groupRead .. => "parsed query group"
  | queryRead observations => s!"Query has {observations} observations"
  | passedOver _ => "skipping informational test"
  | scored .. => "matching run complete"

/-- The values that a notice reports beside its message, each with its name. -/
def details : Notice → List (String × String)
  | pointsRead most => [("max_points", toString most)]
  | fingerprintRead name line => [("name", name), ("line", toString line)]
  | groupRead probe observations =>
    [("group", toString probe), ("events", toString observations)]
  | passedOver o => [("event", o.text)]
  | scored observations fingerprints =>
    [("events", toString observations), ("fingerprints", toString fingerprints)]
  | loading _ | repeatedTest .. | databaseRead .. | repeatedObservation .. | queryRead _ => []

/-- A notice as the log shows it. The message is shielded, the values stand as they are. -/
def entry (n : Notice) : String :=
  n.level.name ++ " " ++ n.origin ++ ": " ++ Text.shielded n.message ++
    String.join (n.details.map fun detail => " " ++ detail.1 ++ "=" ++ detail.2) ++ "\n"

end Notice

end OsDetection
