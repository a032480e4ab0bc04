import OsDetection.PointTable
import OsDetection.Pattern
import OsDetection.Response

/-!
# Reference fingerprints

A reference fingerprint says how the systems of one kind answer the probes: a pattern for each test,
or that a probe gets no answer. A database is a list of fingerprints with a table of points.
-/

namespace OsDetection

/-- How systems of one kind answer. -/
structure Fingerprint where
  name : String
  /-- Vendor, family, generation and type of device, as written. -/
  classes : String
  /-- The platform's identifier, as written. -/
  cpe : String
  /-- The line of a database that names the fingerprint. -/
  line : Nat
  responses : ProbeMap (Response Pattern)
  deriving DecidableEq

namespace Fingerprint

/-- The expected response to a probe. -/
def response? (f : Fingerprint) (probe : Probe) : Option (Response Pattern) := f.responses[probe]?

/-- The probes that a fingerprint must say something about and does not, in canonical order. -/
def missing (f : Fingerprint) : List Probe :=
  Probe.scored.filter (!f.responses.contains ·)

end Fingerprint

/-- Fingerprints and the points for matching them. -/
structure Database where
  fingerprints : List Fingerprint
  points : PointTable
  deriving DecidableEq

end OsDetection
