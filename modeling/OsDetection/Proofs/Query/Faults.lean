import OsDetection.Proofs.Query.Grammar

/-!
# Where a query goes wrong

A query is read from left to right, and what is wrong with it is found at a character, whatever
comes after it. `Reading.Stops` lists what can be found there, one rule for each kind of fault, and
which line is told. The line of a reading is counted along the characters that were read, and the
line of a test name was that of the equals sign after it (`Located`), so that a fault tells the true
line (`ofText_first_fault`). Apart from that, a query can only end too early.
-/

namespace OsDetection

open OsDetection.Text

namespace Query

namespace Reading

/-! ## Faults of a step -/

/-- What can be found wrong at a character, after a reading. -/
inductive Stops (r : Reading) : Char → Fault → Prop
  | unknownProbe {name : String} (place : r.place = .groupName name)
    (unknown : Probe.ofName? name = none) : Stops r '(' (.unknownProbe r.line name)
  | repeatedGroup {probe : Probe} (place : r.place = .groupName probe.name)
    (given : r.query.responses.contains probe) :
    Stops r '(' (.repeatedGroup r.line probe "<query>")
  | unexpected (c : Char) : Stops r c (.misspelled r.line (.unexpected c))
  | missingEquals {probe : Probe} {tests : Tests} {name : String}
    (place : r.place = .testName probe tests name) :
    Stops r ')' (.misspelled r.line (.missingEquals name probe))
  | unnamedTest {probe : Probe} {tests : Tests} (place : r.place = .testName probe tests "") :
    Stops r '=' (.misspelled r.line (.unnamedTest probe))
  | mixedSilence {probe : Probe} {tests : Tests} {test text : String} {nameLine : Nat}
    (place : r.place = .value probe tests test nameLine text) :
    Stops r ')' (.misspelled r.line (.mixedSilence probe))
  | unknownTest {c : Char} {probe : Probe} {tests : Tests} {test text : String} {nameLine : Nat}
    (place : r.place = .value probe tests test nameLine text) (ends : c = '%' ∨ c = ')')
    (unknown : ¬ probe.accepts test) : Stops r c (.unknownTest nameLine probe test)

variable {r r' : Reading} {c : Char} {fault : Fault} {probe : Probe} {tests : Tests}
  {test text name : String} {nameLine : Nat}

/-- Only a group that has tests can be wrong at its end. -/
theorem outcome_closeGroup_eq_error (h : (r.closeGroup probe tests).outcome = .error fault) :
    tests ≠ [] ∧ fault = .misspelled r.line (.mixedSilence probe) := by
  unfold closeGroup at h
  rcases Logged.outcome_bind_eq_error_iff.1 h with h | ⟨_, -, h⟩
  · rw [Logged.outcome_ofExcept] at h
    unfold response at h
    split at h
    · cases h
    · next htests =>
      split at h
      · cases h
        exact ⟨fun hnil => htests (.inl hnil), rfl⟩
      · cases h
  · cases h

/-- A test is refused only if its probe does not know it. -/
theorem outcome_addTest_eq_error {line : Nat} {value : String}
    (h : (addTest line nameLine probe tests test value).outcome = .error fault) :
    ¬ probe.accepts test ∧ fault = .unknownTest nameLine probe test := by
  rw [outcome_addTest] at h
  split at h
  · cases h
  · next hunknown =>
    cases h
    rw [Bool.or_eq_true, not_or] at hunknown
    exact ⟨hunknown.1, rfl⟩

theorem stops_of_openGroup (place : r.place = .groupName name)
    (h : (r.openGroup name).outcome = .error fault) : Stops r '(' fault := by
  unfold openGroup at h
  split at h
  · next hunknown =>
    cases h
    exact .unknownProbe place hunknown
  · next probe hprobe =>
    obtain rfl := Probe.ofName?_eq_some_iff.1 hprobe
    split at h
    · next hgiven =>
      cases h
      exact .repeatedGroup place hgiven
    · cases h

theorem stops_of_inGroupName (place : r.place = .groupName name)
    (h : (r.inGroupName name c).outcome = .error fault) : Stops r c fault := by
  unfold inGroupName at h
  split at h
  · next hc =>
    rw [hc]
    exact stops_of_openGroup place h
  · split at h
    · cases h
    · cases h
      exact .unexpected c

theorem stops_of_inTestName (place : r.place = .testName probe tests name)
    (h : (r.inTestName probe tests name c).outcome = .error fault) : Stops r c fault := by
  unfold inTestName at h
  split at h
  · next hc =>
    rw [hc]
    split at h
    · exact absurd rfl (outcome_closeGroup_eq_error h).1
    · cases h
      exact .missingEquals place
  · split at h
    · next hc =>
      rw [hc]
      split at h
      · next hname =>
        rw [hname] at place
        cases h
        exact .unnamedTest place
      · cases h
    · split at h
      · cases h
      · cases h
        exact .unexpected c

theorem stops_of_inValue (place : r.place = .value probe tests test nameLine text)
    (h : (r.inValue probe tests test nameLine text c).outcome = .error fault) :
    Stops r c fault := by
  unfold inValue at h
  split at h
  · next hc =>
    rcases Logged.outcome_bind_eq_error_iff.1 h with h | ⟨_, -, h⟩
    · obtain ⟨hunknown, rfl⟩ := outcome_addTest_eq_error h
      exact .unknownTest place (.inl hc) hunknown
    · cases h
  · split at h
    · next hc =>
      rcases Logged.outcome_bind_eq_error_iff.1 h with h | ⟨_, -, h⟩
      · obtain ⟨hunknown, rfl⟩ := outcome_addTest_eq_error h
        exact .unknownTest place (.inr hc) hunknown
      · obtain ⟨-, rfl⟩ := outcome_closeGroup_eq_error h
        rw [hc]
        exact .mixedSilence place
    · split at h
      · cases h
        exact .unexpected c
      · cases h

/-- What is found wrong at a character is of one of the kinds. A blank is never wrong. -/
theorem stops_of_step (h : (r.step c).outcome = .error fault) :
    isBlank c = false ∧ Stops r c fault := by
  cases hc : isBlank c with
  | true =>
    unfold step at h
    split at h
    · cases h
    · cases h
  | false =>
    rw [step_of_not_isBlank r hc, visible] at h
    refine ⟨rfl, ?_⟩
    split at h
    · next place => exact stops_of_inGroupName place h
    · next place => exact stops_of_inTestName place h
    · next place => exact stops_of_inValue place h

/-! ## Lines -/

/-- A group ends on the line that is being read. -/
theorem outcome_closeGroup_eq_ok (h : (r.closeGroup probe tests).outcome = .ok r') :
    r'.line = r.line ∧ r'.place = .groupName "" := by
  unfold closeGroup at h
  obtain ⟨_, -, h⟩ := Logged.outcome_bind_eq_ok_iff.1 h
  cases h
  exact ⟨rfl, rfl⟩

/-- What a visible character does to the line, which is nothing, and to the place, as far as it
leads into a value or further in it. -/
inductive Enters (r : Reading) (c : Char) (r' : Reading) : Prop
  | elsewhere (line : r'.line = r.line)
    (place : ∀ probe tests test nameLine text, r'.place ≠ .value probe tests test nameLine text)
  | value {probe : Probe} {tests : Tests} {test : String} (line : r'.line = r.line)
    (equals : c = '=') (before : r.place = .testName probe tests test)
    (after : r'.place = .value probe tests test r.line "")
  | further {probe : Probe} {tests : Tests} {test text : String} {nameLine : Nat}
    (line : r'.line = r.line) (inside : c ≠ '(' ∧ c ≠ ')' ∧ c ≠ '%')
    (before : r.place = .value probe tests test nameLine text)
    (after : r'.place = .value probe tests test nameLine (text.push c))

theorem Enters.groupName (line : r'.line = r.line) (place : r'.place = .groupName name) :
    Enters r c r' :=
  .elsewhere line (by simp [place])

theorem Enters.testName (line : r'.line = r.line) (place : r'.place = .testName probe tests name) :
    Enters r c r' :=
  .elsewhere line (by simp [place])

theorem enters_of_openGroup (h : (r.openGroup name).outcome = .ok r') : Enters r c r' := by
  unfold openGroup at h
  split at h
  · cases h
  · split at h
    · cases h
    · cases h
      exact .testName rfl rfl

theorem enters_of_closeGroup (h : (r.closeGroup probe tests).outcome = .ok r') : Enters r c r' :=
  .groupName (outcome_closeGroup_eq_ok h).1 (outcome_closeGroup_eq_ok h).2

theorem enters_of_visible (h : (r.visible c).outcome = .ok r') : Enters r c r' := by
  unfold visible at h
  split at h
  · unfold inGroupName at h
    split at h
    · exact enters_of_openGroup h
    · split at h
      · cases h
        exact .groupName rfl rfl
      · cases h
  · next place =>
    unfold inTestName at h
    split at h
    · split at h
      · exact enters_of_closeGroup h
      · cases h
    · split at h
      · next hc =>
        split at h
        · cases h
        · cases h
          exact .value rfl hc place rfl
      · split at h
        · cases h
          exact .testName rfl rfl
        · cases h
  · next place =>
    unfold inValue at h
    split at h
    · obtain ⟨_, -, h⟩ := Logged.outcome_bind_eq_ok_iff.1 h
      cases h
      exact .testName rfl rfl
    · next hpercent =>
      split at h
      · obtain ⟨_, -, h⟩ := Logged.outcome_bind_eq_ok_iff.1 h
        exact enters_of_closeGroup h
      · next hclose =>
        split at h
        · cases h
        · next hopen =>
          cases h
          exact .further rfl ⟨hopen, hclose, hpercent⟩ place rfl

end Reading

/-- The name of a test stands at the end of a text, leaving blanks aside. -/
structure EndsInName (cs : List Char) (test : String) : Prop where
  name : ∀ c ∈ test.toList, c.isAlphanum
  text : ∃ earlier sep, (sep = '(' ∨ sep = '%') ∧ dropBlanks cs = earlier ++ sep :: test.toList

/-- A text that was read up to a test name ends in it. -/
theorem Spelled.endsInName {gs : List Group} {cs : List Char} {r : Reading} {probe : Probe}
    {tests : Tests} {test : String} (h : Spelled gs (dropBlanks cs) r)
    (place : r.place = .testName probe tests test) : EndsInName cs test := by
  obtain ⟨rest, hcs, hrest⟩ := h.text
  rw [place] at hrest
  obtain ⟨-, name, es, -, -, rfl⟩ := hrest
  refine ⟨name, ?_⟩
  rcases List.eq_nil_or_concat es with rfl | ⟨es, e, rfl⟩
  · exact ⟨gs.flatMap (·.text) ++ probe.name.toList, '(', .inl rfl, by simp [hcs, entriesBefore]⟩
  · refine ⟨gs.flatMap (·.text) ++ (probe.name.toList ++ '(' :: (entriesBefore es ++
      entryText e.1 e.2.toList)), '%', .inr rfl, ?_⟩
    rw [hcs, List.concat_eq_append, entriesBefore_concat]
    simp

/-- A text ends in the name of a test, the equals sign after it, which stands on a line, and the
beginning of a value. -/
def EndsInValue (cs : List Char) (test : String) (nameLine : Nat) : Prop :=
  ∃ before value, cs = before ++ '=' :: value ∧ EndsInName before test ∧
    nameLine = 1 + before.count '\n' ∧ ∀ c ∈ value, c ≠ '(' ∧ c ≠ ')' ∧ c ≠ '%'

theorem EndsInValue.concat {cs : List Char} {test : String} {nameLine : Nat} {c : Char}
    (h : EndsInValue cs test nameLine) (hc : c ≠ '(' ∧ c ≠ ')' ∧ c ≠ '%') :
    EndsInValue (cs ++ [c]) test nameLine := by
  obtain ⟨before, value, rfl, name, line, inside⟩ := h
  refine ⟨before, value ++ [c], by simp, name, line, ?_⟩
  rw [List.forall_mem_append]
  exact ⟨inside, by simpa using hc⟩

/-- A reader that was taken through a text knows the line it is on, and in a value that of the name
of the test. -/
structure Located (cs : List Char) (r : Reading) : Prop where
  line : r.line = 1 + cs.count '\n'
  value : ∀ probe tests test nameLine text, r.place = .value probe tests test nameLine text →
    EndsInValue cs test nameLine

/-- Blanks are no signs. -/
theorem ne_sign_of_isBlank {c : Char} (h : isBlank c) : c ≠ '(' ∧ c ≠ ')' ∧ c ≠ '%' := by
  refine ⟨?_, ?_, ?_⟩ <;> rintro rfl <;> exact absurd h (by decide)

/-- The end of a line is blank. -/
theorem ne_newline_of_visible {c : Char} (h : isBlank c = false) : c ≠ '\n' := by
  rintro rfl
  exact absurd h (by decide)

/-- A character that does not end the line stands on the line that the reader is on. -/
theorem Located.line_concat {cs : List Char} {r : Reading} {c : Char} (h : Located cs r)
    (hc : c ≠ '\n') : r.line = 1 + (cs ++ [c]).count '\n' := by
  simpa [List.count_append, List.count_singleton, hc] using h.line

theorem Located.step {gs : List Group} {cs : List Char} {r r' : Reading} {c : Char}
    (h : Located cs r) (hs : Spelled gs (dropBlanks cs) r) (hr : (r.step c).outcome = .ok r') :
    Located (cs ++ [c]) r' := by
  cases hc : isBlank c with
  | true =>
    -- A blank leaves the reader in its place.
    have hvalue (probe tests test nameLine text)
        (place : r.place = .value probe tests test nameLine text) :
        EndsInValue (cs ++ [c]) test nameLine :=
      (h.value probe tests test nameLine text place).concat (ne_sign_of_isBlank hc)
    unfold Reading.step at hr
    split at hr
    · next hnewline =>
      cases hr
      refine ⟨?_, hvalue⟩
      rw [hnewline, List.count_append, List.count_singleton_self, ← Nat.add_assoc, ← h.line]
    · next hnewline =>
      cases hr
      exact ⟨h.line_concat hnewline, hvalue⟩
  | false =>
    have hline := h.line_concat (ne_newline_of_visible hc)
    rw [Reading.step_of_not_isBlank r hc] at hr
    cases Reading.enters_of_visible hr with
    | elsewhere line place =>
      refine ⟨line.trans hline, fun probe tests test nameLine text hplace => ?_⟩
      exact absurd hplace (place probe tests test nameLine text)
    | value line equals before after =>
      refine ⟨line.trans hline, fun probe tests test nameLine text hplace => ?_⟩
      rw [hplace] at after
      cases after
      exact ⟨cs, [], by rw [equals], hs.endsInName before, h.line, by simp⟩
    | further line inside before after =>
      refine ⟨line.trans hline, fun probe tests test nameLine text hplace => ?_⟩
      rw [hplace] at after
      cases after
      exact (h.value _ _ _ _ _ before).concat inside

/-- Whoever read a text without a fault knows the lines. -/
theorem Reads.located {cs : List Char} {r : Reading} (h : Reads .start cs r) : Located cs r := by
  have hboth : Located cs r ∧ ∃ gs, Spelled gs (dropBlanks cs) r := by
    -- A test name is found in the text by what is spelled before the equals sign.
    refine Logged.foldl_induct
      (I := fun cs r => Located cs r ∧ ∃ gs, Spelled gs (dropBlanks cs) r) ?_ ?_ h
    · refine ⟨⟨rfl, fun _ _ _ _ _ place => ?_⟩, exists_spelled (Reads.nil _)⟩
      cases place
    · rintro cs c r r' ⟨hlocated, gs, hspelled⟩ hr
      refine ⟨hlocated.step hspelled hr, ?_⟩
      rw [dropBlanks_append]
      exact hspelled.step hr
  exact hboth.1

/-! ## The first fault -/

/-- A query fails exactly if some character of it does, after those before it were read, or if it
ends too early. -/
theorem outcome_ofText_eq_error_iff {text : String} {fault : Fault} :
    (ofText text).outcome = .error fault ↔
      (∃ before c after r, text.toList = before ++ c :: after ∧ Reads .start before r ∧
        (r.step c).outcome = .error fault) ∨
      ∃ r, Reads .start text.toList r ∧ r.finish = .error fault := by
  unfold ofText
  rw [Logged.outcome_bind_eq_error_iff, Logged.outcome_foldl_eq_error_iff]
  simp only [Logged.outcome_ofExcept]
  rfl

/-- What a text is read as is known from the place that it leads to. -/
theorem Reads.outcome_ofText {text : String} {r : Reading} (h : Reads .start text.toList r) :
    (ofText text).outcome = r.finish := by
  unfold Reads at h
  rw [ofText, Logged.outcome_bind, h]
  exact Logged.outcome_ofExcept _

/-- At its end, a query can only be incomplete. -/
theorem Reading.finish_eq_error {r : Reading} {fault : Fault} (h : r.finish = .error fault) :
    ∃ reading, fault = .unexpectedEnd r.line reading := by
  unfold Reading.finish at h
  split at h
  · split at h
    · cases h
    · cases h
      exact ⟨_, rfl⟩
  · cases h
    exact ⟨_, rfl⟩
  · cases h
    exact ⟨_, rfl⟩

/-- What can be wrong with a query at the last character of a text, and the line that is told. It is
the one of that character, but for an unknown test, which is told where its name ends. -/
inductive FoundAt (p : List Char) : Fault → Prop
  | unknownProbe (name : String) : FoundAt p (.unknownProbe (1 + p.count '\n') name)
  | repeatedGroup (probe : Probe) : FoundAt p (.repeatedGroup (1 + p.count '\n') probe "<query>")
  | misspelled (how : Misspelling) : FoundAt p (.misspelled (1 + p.count '\n') how)
  | unknownTest {before : List Char} {stop : Char} {nameLine : Nat} {probe : Probe} {test : String}
    (text : p = before ++ [stop]) (ends : stop = '%' ∨ stop = ')')
    (value : EndsInValue before test nameLine) : FoundAt p (.unknownTest nameLine probe test)

/-- What is found wrong at a visible character is found at the end of the text up to it. -/
theorem Located.foundAt {cs : List Char} {r : Reading} {c : Char} {fault : Fault}
    (h : Located cs r) (visible : isBlank c = false) (hstops : r.Stops c fault) :
    FoundAt (cs ++ [c]) fault := by
  have hline := h.line_concat (ne_newline_of_visible visible)
  cases hstops with
  | unknownProbe =>
    rw [hline]
    exact .unknownProbe _
  | repeatedGroup =>
    rw [hline]
    exact .repeatedGroup _
  | unexpected | missingEquals | unnamedTest | mixedSilence =>
    rw [hline]
    exact .misspelled _
  | unknownTest place ends => exact .unknownTest rfl ends (h.value _ _ _ _ _ place)

/-- A query that does not only end too early has a first character that is wrong. The fault is the
same whatever comes after it, a query that ends before it can only be incomplete, and the line that
is told is the one of that character, or the one where the name of an unknown test ends. A query
that ends too early tells its last line. -/
theorem ofText_first_fault (text : String) (fault : Fault)
    (h : (ofText text).outcome = .error fault) :
    (∃ reading, fault = .unexpectedEnd (1 + text.toList.count '\n') reading) ∨
      ∃ p, p <+: text.toList ∧ FoundAt p fault ∧
        (∀ u, (ofText (String.ofList (p ++ u))).outcome = .error fault) ∧
        ∀ q, q <+: p → q ≠ p → ∀ fault', (ofText (String.ofList q)).outcome = .error fault' →
          ∃ line reading, fault' = .unexpectedEnd line reading := by
  rcases outcome_ofText_eq_error_iff.1 h with
    ⟨before, c, after, r, htext, hr, hstep⟩ | ⟨r, hr, hend⟩
  · obtain ⟨visible, hstops⟩ := Reading.stops_of_step hstep
    refine .inr ⟨before ++ [c], ⟨after, by simp [htext]⟩, hr.located.foundAt visible hstops,
      fun u => ?_, fun q hq hne fault' hfault => ?_⟩
    · exact outcome_ofText_eq_error_iff.2 (.inl ⟨before, c, u, r, by simp, hr, hstep⟩)
    · -- What comes before the wrong character was read.
      obtain ⟨rest, rfl⟩ : q <+: before := (List.prefix_concat_iff.1 hq).resolve_left hne
      obtain ⟨m, hm, -⟩ := reads_append_iff.1 hr
      rw [Reads.outcome_ofText (by simpa using hm)] at hfault
      obtain ⟨reading, rfl⟩ := Reading.finish_eq_error hfault
      exact ⟨m.line, reading, rfl⟩
  · obtain ⟨reading, rfl⟩ := Reading.finish_eq_error hend
    rw [hr.located.line]
    exact .inl ⟨reading, rfl⟩

/-- A test that is unknown is told where its name ends, though its value goes on to the next line.
Nothing that comes later changes it. -/
theorem ofText_first_fault_unknown_test :
    (ofText "T1(R=Y%\nTOS\n=1\n0)T2(").outcome = .error (.unknownTest 3 .t1 "TOS") ∧
      ∃ p, p <+: "T1(R=Y%\nTOS\n=1\n0)T2(".toList ∧ FoundAt p (.unknownTest 3 .t1 "TOS") ∧
        ∀ u, (ofText (String.ofList (p ++ u))).outcome = .error (.unknownTest 3 .t1 "TOS") := by
  have hfault : (ofText "T1(R=Y%\nTOS\n=1\n0)T2(").outcome = .error (.unknownTest 3 .t1 "TOS") := by
    decide +kernel
  refine ⟨hfault, ?_⟩
  rcases ofText_first_fault _ _ hfault with ⟨_, h⟩ | ⟨p, hp, hfound, hsame, -⟩
  · cases h
  · exact ⟨p, hp, hfound, hsame⟩

end Query

end OsDetection
