import OsDetection.Probe

/-!
# Observations

What a scan reports is a sequence of observations: the value of one test of one probe. A probe that
got no answer is observed as silent, written as the value `N` of the responsiveness test `R`.
-/

namespace OsDetection

/-- The test by which a group tells whether its probe was answered at all. -/
def responsiveness : String := "R"

/-- The value of the responsiveness test of a probe that got no answer. -/
def noAnswer : String := "N"

/-- The value of one test of one probe. -/
structure Observation where
  probe : Probe
  test : String
  value : String
  deriving DecidableEq, Repr

namespace Observation

/-- A probe got no answer. -/
def silence (probe : Probe) : Observation := ⟨probe, responsiveness, noAnswer⟩

/-- Whether a test and its value say that a probe got no answer. -/
def meansSilence (test value : String) : Bool :=
  test = responsiveness && value = noAnswer

/-- Whether an observation says that its probe got no answer. -/
def isSilence (o : Observation) : Bool := meansSilence o.test o.value

@[simp] theorem isSilence_silence (probe : Probe) : (silence probe).isSilence := by
  simp [isSilence, meansSilence, silence]

/-- There is one way to observe a silent probe. -/
theorem isSilence_iff {o : Observation} : o.isSilence ↔ o = silence o.probe := by
  cases o
  simp [isSilence, meansSilence, silence]

/-- An observation in writing. -/
def text (o : Observation) : String := s!"{o.probe.name}.{o.test}={o.value}"

end Observation

end OsDetection
