import OsDetection.Probe

/-!
# Facts from the catalogue

What is read off the catalogue of probes and tests by going through it: how the names are spelled
(`Probe.isAlphanum_name`, `Probe.toList_name_ne_nil`, `Probe.spelling_of_accepts`), and how many
tests a probe accepts (`Probe.length_accepted_le`).
-/

namespace OsDetection.Probe

/-- The name of a probe consists of letters and digits. -/
theorem isAlphanum_name (p : Probe) : ∀ c ∈ p.name.toList, c.isAlphanum := by
  rw [← List.all_eq_true]
  cases p <;> decide

/-- A probe has a name. -/
theorem toList_name_ne_nil (p : Probe) : p.name.toList ≠ [] := by
  cases p <;> decide

/-- The tests that may appear in the group of a probe. -/
def accepted (p : Probe) : List String := p.tests ++ tolerated

theorem mem_accepted_iff {p : Probe} {test : String} : test ∈ p.accepted ↔ p.accepts test := by
  simp [accepted, accepts]

/-- The name of a test that a probe accepts is not empty and consists of letters and digits. -/
theorem spelling_of_accepts {p : Probe} {test : String} (h : p.accepts test) :
    test.toList ≠ [] ∧ ∀ c ∈ test.toList, c.isAlphanum := by
  have hall : ∀ test ∈ p.accepted, test.toList ≠ [] ∧ test.toList.all (·.isAlphanum) := by
    cases p <;> decide
  obtain ⟨hne, halphanum⟩ := hall test (mem_accepted_iff.2 h)
  exact ⟨hne, List.all_eq_true.1 halphanum⟩

theorem length_accepted_le (p : Probe) : p.accepted.length ≤ 17 := by
  cases p <;> decide

end OsDetection.Probe
