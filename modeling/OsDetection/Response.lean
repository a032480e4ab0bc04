import OsDetection.Probe

/-!
# Responses to a probe

The group of tests of one probe, in a query as well as in a reference fingerprint: either the probe
got no answer, or there is something to say about some of its tests. A query has the observed value
of a test there, a reference the pattern that the value should match.
-/

namespace OsDetection

/-- What is known about the answer to one probe. -/
inductive Response (α : Type) where
  /-- The probe got no answer. -/
  | silent
  /-- The probe was answered; the map holds what is known about each test. -/
  | answered (tests : TestMap α)

namespace Response

variable {α : Type}

instance [DecidableEq α] : DecidableEq (Response α)
  | .silent, .silent => isTrue rfl
  | .silent, .answered _ => isFalse nofun
  | .answered _, .silent => isFalse nofun
  | .answered s, .answered t =>
    if h : s = t then isTrue (congrArg _ h) else isFalse fun e => h (by injection e)

def isSilent : Response α → Bool
  | silent => true
  | answered _ => false

/-- The tests that something is known about; none of a silent probe. -/
def tests : Response α → TestMap α
  | silent => ∅
  | answered tests => tests

/-- What is known about a test. -/
def get? (r : Response α) (test : String) : Option α := r.tests[test]?

/-- The number of tests that something is known about. -/
def size (r : Response α) : Nat := r.tests.size

def isEmpty (r : Response α) : Bool := r.size = 0

end Response

end OsDetection
