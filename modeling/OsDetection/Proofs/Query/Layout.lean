import OsDetection.Proofs.Renumbering
import OsDetection.Query.Reader

/-!
# The layout of a query

Blanks may stand anywhere in a query, and the only trace they leave is the line count. What is known
between two characters is `unnumbered` by forgetting the lines in it, and reading commutes with
that: a query is read as its visible characters are, up to the lines that notices and a fault
mention (`unnumbered_ofText_dropBlanks`). Texts with the same visible characters are therefore read
alike (`ofText_up_to_blanks`).
-/

namespace OsDetection

open OsDetection.Text

/-- The characters of a text that are no blanks. -/
def Text.dropBlanks (cs : List Char) : List Char :=
  cs.filter (!isBlank ·)

theorem Text.dropBlanks_append (cs ds : List Char) :
    dropBlanks (cs ++ ds) = dropBlanks cs ++ dropBlanks ds :=
  List.filter_append ..

namespace Query

/-- What is being read, without the line that a test was named on. -/
def Place.unnumbered : Place → Place
  | groupName name => groupName name
  | testName probe tests name => testName probe tests name
  | value probe tests test _ text => value probe tests test 0 text

namespace Reading

/-- What is known between two characters, without the lines. -/
def unnumbered (r : Reading) : Reading :=
  ⟨0, r.query, r.place.unnumbered⟩

@[simp] theorem unnumbered_query (r : Reading) : r.unnumbered.query = r.query := rfl

end Reading

/-- The notice that a repeated test gives does not change the tests. -/
theorem outcome_addTest (line nameLine : Nat) (probe : Probe) (tests : Tests)
    (test value : String) :
    (addTest line nameLine probe tests test value).outcome =
      if probe.accepts test || Observation.meansSilence test value then
        .ok (tests.filter (·.1 ≠ test) ++ [(test, value)])
      else .error (.unknownTest nameLine probe test) := by
  unfold addTest
  split
  · split <;> rfl
  · rfl

/-- A test is added alike on every line. -/
theorem unnumbered_addTest (line nameLine line' nameLine' : Nat) (probe : Probe) (tests : Tests)
    (test value : String) :
    (addTest line nameLine probe tests test value).unnumbered id =
      (addTest line' nameLine' probe tests test value).unnumbered id := by
  unfold addTest
  split
  · split <;> rfl
  · rfl

namespace Reading

theorem unnumbered_openGroup (r : Reading) (name : String) :
    (r.unnumbered.openGroup name).unnumbered unnumbered =
      (r.openGroup name).unnumbered unnumbered := by
  unfold openGroup
  cases Probe.ofName? name with
  | none => rfl
  | some probe => by_cases h : r.query.responses.contains probe <;> simp [h] <;> rfl

theorem unnumbered_closeGroup (r : Reading) (probe : Probe) (tests : Tests) :
    (r.unnumbered.closeGroup probe tests).unnumbered unnumbered =
      (r.closeGroup probe tests).unnumbered unnumbered := by
  unfold closeGroup response
  split
  · rfl
  · split <;> rfl

/-- A visible character is read alike on every line. -/
theorem unnumbered_visible (r : Reading) (c : Char) :
    (r.unnumbered.visible c).unnumbered unnumbered = (r.visible c).unnumbered unnumbered := by
  obtain ⟨line, query, place⟩ := r
  cases place with
  | groupName name =>
    simp only [visible, unnumbered, Place.unnumbered, inGroupName]
    split
    · exact unnumbered_openGroup ⟨line, query, .groupName name⟩ name
    · split <;> rfl
  | testName probe tests name =>
    simp only [visible, unnumbered, Place.unnumbered, inTestName]
    split
    · split
      · exact unnumbered_closeGroup ⟨line, query, .testName probe tests name⟩ probe []
      · rfl
    · split
      · split <;> rfl
      · split <;> rfl
  | value probe tests test nameLine text =>
    simp only [visible, unnumbered, Place.unnumbered, inValue]
    have hadd := unnumbered_addTest 0 0 line nameLine probe tests test text
    split
    · refine Logged.unnumbered_bind hadd fun added added' hadded => ?_
      obtain rfl : added = added' := hadded
      rfl
    · split
      · refine Logged.unnumbered_bind hadd fun added added' hadded => ?_
        obtain rfl : added = added' := hadded
        exact unnumbered_closeGroup ⟨line, query, .value probe tests test nameLine text⟩ probe added
      · split <;> rfl

/-- A blank leaves no trace but the line. -/
theorem unnumbered_step_of_isBlank (r : Reading) {c : Char} (h : isBlank c) :
    (r.step c).unnumbered unnumbered = pure r.unnumbered := by
  unfold step
  by_cases hc : c = '\n'
  · rw [if_pos hc]
    rfl
  · rw [if_neg hc, if_pos h]
    rfl

/-- A character that is no blank is read as a visible one. -/
theorem step_of_not_isBlank (r : Reading) {c : Char} (h : isBlank c = false) :
    r.step c = r.visible c := by
  have hc : c ≠ '\n' := by
    rintro rfl
    exact absurd h (by decide)
  simp [step, hc, h]

/-- A character is read alike on every line. -/
theorem unnumbered_step {r r' : Reading} (h : r.unnumbered = r'.unnumbered) (c : Char) :
    (r.step c).unnumbered unnumbered = (r'.step c).unnumbered unnumbered := by
  by_cases hc : isBlank c
  · rw [unnumbered_step_of_isBlank r hc, unnumbered_step_of_isBlank r' hc, h]
  · have hvisible := Bool.eq_false_iff.2 hc
    rw [step_of_not_isBlank r hvisible, step_of_not_isBlank r' hvisible, ← unnumbered_visible r, h,
      unnumbered_visible]

theorem finish_unnumbered (r : Reading) :
    r.unnumbered.finish.mapError Fault.unnumbered = r.finish.mapError Fault.unnumbered := by
  obtain ⟨line, query, place⟩ := r
  cases place with
  | groupName name =>
    simp only [finish, unnumbered, Place.unnumbered]
    split <;> rfl
  | testName | value => rfl

end Reading

/-- A query is read as its visible characters are, up to the lines that notices and a fault
mention. -/
theorem unnumbered_ofText_dropBlanks (text : String) :
    (ofText text).unnumbered id =
      (ofText (String.ofList (dropBlanks text.toList))).unnumbered id := by
  have hfold := @Logged.unnumbered_foldl _ _ _ _ _ Reading.step Reading.step (!isBlank ·) id
    (fun r c hc => r.unnumbered_step_of_isBlank (by simpa using hc))
    (fun r r' c h => Reading.unnumbered_step h c) Reading.start Reading.start rfl text.toList
  rw [List.map_id] at hfold
  unfold ofText
  rw [String.toList_ofList]
  refine Logged.unnumbered_bind hfold fun r r' h => ?_
  have hfinish : r.finish.mapError Fault.unnumbered = r'.finish.mapError Fault.unnumbered := by
    rw [← r.finish_unnumbered, h, r'.finish_unnumbered]
  exact Logged.ext rfl (congrArg (Except.map id) hfinish)

/-- A text is a query exactly if its visible characters are, and the same one. -/
theorem outcome_ofText_dropBlanks (text : String) :
    (ofText text).outcome.mapError Fault.unnumbered =
      (ofText (String.ofList (dropBlanks text.toList))).outcome.mapError Fault.unnumbered := by
  have h := congrArg Logged.outcome (unnumbered_ofText_dropBlanks text)
  simpa only [Logged.unnumbered, Except.map_id, id_eq] using h

/-- **Layout does not matter.** Texts that differ in their blanks only, wherever these stand, are
the same query, or have the same fault but for its line; and reading them gives the same notices but
for the lines. -/
theorem ofText_up_to_blanks {text text' : String}
    (h : dropBlanks text.toList = dropBlanks text'.toList) :
    (ofText text).outcome.mapError Fault.unnumbered =
        (ofText text').outcome.mapError Fault.unnumbered ∧
      (ofText text).notices.map Notice.unnumbered =
        (ofText text').notices.map Notice.unnumbered := by
  have hvisible : (ofText text).unnumbered id = (ofText text').unnumbered id := by
    rw [unnumbered_ofText_dropBlanks text, h, ← unnumbered_ofText_dropBlanks]
  refine ⟨?_, congrArg Logged.notices hvisible⟩
  rw [outcome_ofText_dropBlanks text, h, ← outcome_ofText_dropBlanks]

/-- A test that is given twice, the second time on another line. -/
theorem ofText_up_to_blanks_repeated_test :
    ∃ q, (ofText "T1(DF=N%DF=Y)OPS()").outcome = .ok q ∧
      (ofText "T 1(DF=N %\n D\u00a0F=Y)\tOPS\n( )").outcome = .ok q ∧
      (ofText "T 1(DF=N %\n D\u00a0F=Y)\tOPS\n( )").notices.map Notice.unnumbered =
        [.repeatedObservation 0 "DF" .t1, .groupRead .t1 1, .groupRead .ops 1] := by
  obtain ⟨q, hq⟩ : ∃ q, (ofText "T1(DF=N%DF=Y)OPS()").outcome = .ok q :=
    exists_eq_ok_of_isOk (by decide +kernel)
  have h : dropBlanks "T1(DF=N%DF=Y)OPS()".toList =
      dropBlanks "T 1(DF=N %\n D\u00a0F=Y)\tOPS\n( )".toList := by decide
  obtain ⟨houtcome, hnotices⟩ := ofText_up_to_blanks h
  refine ⟨q, hq, ?_, hnotices.symm.trans (by decide +kernel)⟩
  rw [hq] at houtcome
  cases hread : (ofText "T 1(DF=N %\n D\u00a0F=Y)\tOPS\n( )").outcome with
  | error fault => rw [hread] at houtcome; cases houtcome
  | ok q' => rw [hread] at houtcome; exact houtcome.symm

end Query

end OsDetection
