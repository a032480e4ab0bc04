import OsDetection.Proofs.Catalogue
import OsDetection.Proofs.Query.Groups

/-!
# The grammar of queries

Which texts are queries, and what they report. In one direction, reading a well-formed group goes
through its name, each name and value of its entries and the signs between them, one lemma for each
(`reads_groupName` to `reads_groups`). In the other, whatever was read without a fault so far is
well-formed groups and the beginning of another (`Spelled`), which is kept by every character. The
two meet in `ofText_eq_ok_iff`.
-/

namespace OsDetection

open OsDetection.Text

namespace Query

/-! ## Reading what is well-formed -/

/-- Reading a text leads from one place to another. -/
def Reads (r : Reading) (cs : List Char) (r' : Reading) : Prop :=
  (Logged.foldl Reading.step r cs).outcome = .ok r'

theorem Reads.nil (r : Reading) : Reads r [] r := rfl

theorem Reads.cons {r m r' : Reading} {c : Char} {cs : List Char} (h₁ : (r.step c).outcome = .ok m)
    (h₂ : Reads m cs r') : Reads r (c :: cs) r' := by
  unfold Reads at *
  rw [Logged.foldl_cons, Logged.outcome_bind, h₁]
  exact h₂

/-- A text can be read in two parts. -/
theorem reads_append_iff {r r' : Reading} {cs ds : List Char} :
    Reads r (cs ++ ds) r' ↔ ∃ m, Reads r cs m ∧ Reads m ds r' := by
  unfold Reads
  rw [Logged.outcome_foldl_append, bind_eq_ok_iff]

theorem Reads.append {r m r' : Reading} {cs ds : List Char} (h₁ : Reads r cs m)
    (h₂ : Reads m ds r') : Reads r (cs ++ ds) r' :=
  reads_append_iff.2 ⟨m, h₁, h₂⟩

section
variable {line : Nat} {q : Query} {probe : Probe} {tests : Tests}

/-- A name given character by character, or its characters put together. -/
theorem push_append_ofList (s : String) (c : Char) (cs : List Char) :
    s.push c ++ String.ofList cs = s ++ String.ofList (c :: cs) :=
  String.toList_inj.1 (by simp)

/-- Letters and digits extend the name of a group. -/
theorem reads_groupName {name : String} {cs : List Char} (h : ∀ c ∈ cs, c.isAlphanum) :
    Reads ⟨line, q, .groupName name⟩ cs ⟨line, q, .groupName (name ++ String.ofList cs)⟩ := by
  induction cs generalizing name with
  | nil => simpa using Reads.nil _
  | cons c cs ih =>
    have hc : c.isAlphanum := h c (by simp)
    have hopen : c ≠ '(' := by rintro rfl; exact absurd hc (by decide)
    rw [← push_append_ofList]
    refine Reads.cons ?_ (ih fun d hd => h d (by simp [hd]))
    rw [Reading.step_of_not_isBlank _ (isBlank_of_isAlphanum hc)]
    simp [Reading.visible, Reading.inGroupName, hopen, hc]

/-- Letters and digits extend the name of a test. -/
theorem reads_testName {name : String} {cs : List Char} (h : ∀ c ∈ cs, c.isAlphanum) :
    Reads ⟨line, q, .testName probe tests name⟩ cs
      ⟨line, q, .testName probe tests (name ++ String.ofList cs)⟩ := by
  induction cs generalizing name with
  | nil => simpa using Reads.nil _
  | cons c cs ih =>
    have hc : c.isAlphanum := h c (by simp)
    have hclose : c ≠ ')' := by rintro rfl; exact absurd hc (by decide)
    have hequals : c ≠ '=' := by rintro rfl; exact absurd hc (by decide)
    rw [← push_append_ofList]
    refine Reads.cons ?_ (ih fun d hd => h d (by simp [hd]))
    rw [Reading.step_of_not_isBlank _ (isBlank_of_isAlphanum hc)]
    simp [Reading.visible, Reading.inTestName, hclose, hequals, hc]

/-- Visible characters other than the signs after a value extend it. -/
theorem reads_value {test text : String} {nameLine : Nat} {cs : List Char}
    (hv : ∀ c ∈ cs, isBlank c = false) (h : ∀ c ∈ cs, c ≠ '(' ∧ c ≠ ')' ∧ c ≠ '%') :
    Reads ⟨line, q, .value probe tests test nameLine text⟩ cs
      ⟨line, q, .value probe tests test nameLine (text ++ String.ofList cs)⟩ := by
  induction cs generalizing text with
  | nil => simpa using Reads.nil _
  | cons c cs ih =>
    obtain ⟨hopen, hclose, hpercent⟩ := h c (by simp)
    rw [← push_append_ofList]
    refine Reads.cons ?_ (ih (fun d hd => hv d (by simp [hd])) fun d hd => h d (by simp [hd]))
    rw [Reading.step_of_not_isBlank _ (hv c (by simp))]
    simp [Reading.visible, Reading.inValue, hopen, hclose, hpercent]

/-- An entry is read up to the end of its value. -/
theorem reads_entry {e : String × String} (he : Group.Admits probe e)
    (hv : ∀ c ∈ e.2.toList, isBlank c = false) :
    Reads ⟨line, q, .testName probe tests ""⟩ (entryText e.1 e.2.toList)
      ⟨line, q, .value probe tests e.1 line e.2⟩ := by
  have hname : Reads ⟨line, q, .testName probe tests ""⟩ e.1.toList
      ⟨line, q, .testName probe tests e.1⟩ := by
    have h : Reads _ _ ⟨line, q, .testName probe tests ("" ++ String.ofList e.1.toList)⟩ :=
      reads_testName he.name
    simpa using h
  have hequals : (Reading.step ⟨line, q, .testName probe tests e.1⟩ '=').outcome =
      .ok ⟨line, q, .value probe tests e.1 line ""⟩ := by
    rw [Reading.step_of_not_isBlank _ (by decide)]
    simp [Reading.visible, Reading.inTestName, he.named]
  have hvalue : Reads ⟨line, q, .value probe tests e.1 line ""⟩ e.2.toList
      ⟨line, q, .value probe tests e.1 line e.2⟩ := by
    have h : Reads _ _ ⟨line, q, .value probe tests e.1 line ("" ++ String.ofList e.2.toList)⟩ :=
      reads_value hv he.value
    simpa using h
  exact hname.append (.cons hequals hvalue)

/-- An admitted entry is added to the tests of its group. -/
theorem outcome_addTest_of_admits {e : String × String} (he : Group.Admits probe e)
    (line nameLine : Nat) (es : Tests) :
    (addTest line nameLine probe (lastOfEach es) e.1 e.2).outcome =
      .ok (lastOfEach (es ++ [e])) := by
  have hknown : (probe.accepts e.1 || Observation.meansSilence e.1 e.2) = true := by
    rcases he.known with h | rfl
    · simp [h]
    · simp [Observation.meansSilence]
  rw [outcome_addTest, if_pos hknown, lastOfEach_concat]

/-- The entries of a group are read up to the end of the group. `es` are the entries before them. -/
theorem reads_entries {es fs : Tests} {r' : Reading} (hfs : fs ≠ [])
    (admits : ∀ e ∈ fs, Group.Admits probe e)
    (hv : ∀ e ∈ fs, ∀ c ∈ e.2.toList, isBlank c = false)
    (hclose : ∀ place, (Reading.closeGroup ⟨line, q, place⟩ probe (lastOfEach (es ++ fs))).outcome =
      .ok r') :
    Reads ⟨line, q, .testName probe (lastOfEach es) ""⟩
      (entriesText fs ++ [')']) r' := by
  induction fs generalizing es with
  | nil => exact absurd rfl hfs
  | cons e fs ih =>
    have he := admits e (by simp)
    have hentry : Reads ⟨line, q, .testName probe (lastOfEach es) ""⟩ (entryText e.1 e.2.toList)
        ⟨line, q, .value probe (lastOfEach es) e.1 line e.2⟩ := reads_entry he (hv e (by simp))
    cases fs with
    | nil =>
      have hlast : (Reading.step ⟨line, q, .value probe (lastOfEach es) e.1 line e.2⟩ ')').outcome =
          .ok r' := by
        rw [Reading.step_of_not_isBlank _ (by decide)]
        simp [Reading.visible, Reading.inValue, outcome_addTest_of_admits he, hclose]
      rw [entriesText_singleton]
      exact hentry.append (.cons hlast (.nil _))
    | cons d fs =>
      have hpercent :
          (Reading.step ⟨line, q, .value probe (lastOfEach es) e.1 line e.2⟩ '%').outcome =
            .ok ⟨line, q, .testName probe (lastOfEach (es ++ [e])) ""⟩ := by
        rw [Reading.step_of_not_isBlank _ (by decide)]
        simp [Reading.visible, Reading.inValue, outcome_addTest_of_admits he, Except.map]
      rw [entriesText_cons_cons, List.append_assoc, List.cons_append]
      refine hentry.append (.cons hpercent (ih (by simp) ?_ ?_ ?_))
      · exact fun f hf => admits f (by simp_all)
      · exact fun f hf => hv f (by simp_all)
      · simpa using hclose

end

/-! ## The end of a group -/

/-- Tests hold silence exactly if its mark is among them. -/
theorem any_meansSilence_iff {ts : Tests} :
    (ts.any fun test => Observation.meansSilence test.1 test.2) ↔
      (responsiveness, noAnswer) ∈ ts := by
  rw [List.any_eq_true]
  refine ⟨fun h => ?_, ?_⟩
  · obtain ⟨⟨test, value⟩, hmem, h⟩ := h
    obtain ⟨rfl, rfl⟩ : test = responsiveness ∧ value = noAnswer := by
      simpa [Observation.meansSilence] using h
    exact hmem
  · exact fun hmem => ⟨_, hmem, by simp [Observation.meansSilence]⟩

/-- The tests of a group amount to a response exactly if silence is not mixed with others. -/
theorem response_kept_eq_ok_iff {line : Nat} {g : Group}
    {x : Response String × List Observation} :
    Query.response line g.probe g.kept = .ok x ↔
      ((responsiveness, noAnswer) ∈ g.kept → g.kept = [(responsiveness, noAnswer)]) ∧
        x = (g.response, g.observations) := by
  unfold Query.response Group.response Group.observations
  by_cases hs : g.kept = [] ∨ g.kept = [(responsiveness, noAnswer)]
  · have hok : (responsiveness, noAnswer) ∈ g.kept → g.kept = [(responsiveness, noAnswer)] := by
      rcases hs with h | h
      · simp [h]
      · exact fun _ => h
    rw [if_pos hs, if_pos hs, if_pos hs]
    exact ⟨fun h => ⟨hok, (Except.ok.inj h).symm⟩, fun h => h.2 ▸ rfl⟩
  · simp only [hs, if_false]
    by_cases hm : (responsiveness, noAnswer) ∈ g.kept
    · rw [if_pos (any_meansSilence_iff.2 hm)]
      refine ⟨?_, fun h => ?_⟩
      · exact nofun
      · obtain ⟨h, -⟩ := h
        exact absurd (.inr (h hm)) hs
    · rw [if_neg (any_meansSilence_iff.not.2 hm)]
      simp [hm, eq_comm]

/-- A group ends without a fault exactly if it does not mix silence with other tests, and is then
added to the query. -/
theorem outcome_closeGroup_eq_ok_iff {r r' : Reading} {g : Group} :
    (r.closeGroup g.probe g.kept).outcome = .ok r' ↔
      ((responsiveness, noAnswer) ∈ g.kept → g.kept = [(responsiveness, noAnswer)]) ∧
        r' = ⟨r.line, addGroup r.query g, .groupName ""⟩ := by
  unfold Reading.closeGroup
  rw [Logged.outcome_bind_eq_ok_iff]
  refine ⟨fun h => ?_, fun h => ?_⟩
  · obtain ⟨⟨response, observations⟩, h, hr⟩ := h
    obtain ⟨hok, hx⟩ := response_kept_eq_ok_iff.1 h
    cases hx
    cases hr
    exact ⟨hok, rfl⟩
  · obtain ⟨hok, rfl⟩ := h
    exact ⟨_, response_kept_eq_ok_iff.2 ⟨hok, rfl⟩, rfl⟩

section
variable {line : Nat} {q : Query}

/-- A group of a probe that the query has none of yet is read and added to the query. -/
theorem reads_group {g : Group} (hg : g.WellFormed) (hv : ∀ c ∈ g.text, isBlank c = false)
    (hnew : ¬ q.responses.contains g.probe) :
    Reads ⟨line, q, .groupName ""⟩ g.text ⟨line, addGroup q g, .groupName ""⟩ := by
  have hname : Reads ⟨line, q, .groupName ""⟩ g.probe.name.toList
      ⟨line, q, .groupName g.probe.name⟩ := by
    have h : Reads _ _ ⟨line, q, .groupName ("" ++ String.ofList g.probe.name.toList)⟩ :=
      reads_groupName (Probe.isAlphanum_name g.probe)
    simpa using h
  have hopen : (Reading.step ⟨line, q, .groupName g.probe.name⟩ '(').outcome =
      .ok ⟨line, q, .testName g.probe [] ""⟩ := by
    rw [Reading.step_of_not_isBlank _ (by decide)]
    simp [Reading.visible, Reading.inGroupName, Reading.openGroup, hnew]
  have hclose (place) : (Reading.closeGroup ⟨line, q, place⟩ g.probe g.kept).outcome =
      .ok ⟨line, addGroup q g, .groupName ""⟩ :=
    outcome_closeGroup_eq_ok_iff.2 ⟨hg.silence, rfl⟩
  rw [Group.text_eq]
  refine hname.append (.cons hopen ?_)
  by_cases hes : g.entries = []
  · have hlast : (Reading.step ⟨line, q, .testName g.probe [] ""⟩ ')').outcome =
        .ok ⟨line, addGroup q g, .groupName ""⟩ := by
      rw [Reading.step_of_not_isBlank _ (by decide)]
      simpa [Reading.visible, Reading.inTestName, Group.kept, hes] using hclose _
    rw [hes]
    exact .cons hlast (.nil _)
  · -- No entry was read before these.
    rw [show ([] : Tests) = lastOfEach [] from rfl]
    have hvalue : ∀ e ∈ g.entries, ∀ c ∈ e.2.toList, isBlank c = false := by
      intro e he c hc
      apply hv
      simp [Group.text_eq, mem_entriesText he hc]
    exact reads_entries hes hg.admits hvalue hclose

/-- Groups of different probes are read one after the other. -/
theorem reads_groups {gs hs : List Group} (wellFormed : ∀ g ∈ hs, g.WellFormed)
    (hv : ∀ c ∈ hs.flatMap (·.text), isBlank c = false) (nodup : ((gs ++ hs).map (·.probe)).Nodup) :
    Reads ⟨line, ofGroups gs, .groupName ""⟩ (hs.flatMap (·.text))
      ⟨line, ofGroups (gs ++ hs), .groupName ""⟩ := by
  induction hs generalizing gs with
  | nil => simpa using Reads.nil _
  | cons g hs ih =>
    rw [List.append_cons] at nodup ⊢
    rw [List.flatMap_cons] at hv ⊢
    have hnew : ¬ (ofGroups gs).responses.contains g.probe := by
      rw [contains_ofGroups]
      simp only [List.map_append, List.nodup_append] at nodup
      intro hmem
      exact nodup.1.2.2 _ hmem _ (by simp) rfl
    refine (reads_group (wellFormed g (by simp)) (fun c hc => hv c (by simp [hc])) hnew).append ?_
    rw [← ofGroups_concat]
    exact ih (fun g hg => wellFormed g (by simp [hg])) (fun c hc => hv c (by simp_all)) nodup

end

/-! ## What was read without a fault -/

/-- What a place spells of a group, after whole groups: the beginning of its name, or its name,
entries that are complete, and the beginning of another. -/
def Place.Spells (gs : List Group) (rest : List Char) : Place → Prop
  | .groupName name => (∀ c ∈ name.toList, c.isAlphanum) ∧ rest = name.toList
  | .testName probe tests name =>
    probe ∉ gs.map (·.probe) ∧ (∀ c ∈ name.toList, c.isAlphanum) ∧
      ∃ es, (∀ e ∈ es, Group.Admits probe e) ∧ tests = lastOfEach es ∧
        rest = probe.name.toList ++ '(' :: (entriesBefore es ++ name.toList)
  | .value probe tests test _ text =>
    probe ∉ gs.map (·.probe) ∧ test ≠ "" ∧ (∀ c ∈ test.toList, c.isAlphanum) ∧
      (∀ c ∈ text.toList, c ≠ '(' ∧ c ≠ ')' ∧ c ≠ '%') ∧
      ∃ es, (∀ e ∈ es, Group.Admits probe e) ∧ tests = lastOfEach es ∧
        rest = probe.name.toList ++ '(' :: (entriesBefore es ++ entryText test text.toList)

/-- The visible characters of a text are whole groups, which a reader has the query of, and what its
place spells. -/
structure Spelled (gs : List Group) (cs : List Char) (r : Reading) : Prop where
  wellFormed : ∀ g ∈ gs, g.WellFormed
  nodup : (gs.map (·.probe)).Nodup
  query : r.query = ofGroups gs
  text : ∃ rest, cs = gs.flatMap (·.text) ++ rest ∧ r.place.Spells gs rest

/-- A group that was read to its end is one more whole group. -/
theorem Spelled.close {gs : List Group} {cs : List Char} {r : Reading} {g : Group}
    (wellFormed : ∀ g ∈ gs, g.WellFormed) (nodup : (gs.map (·.probe)).Nodup)
    (hg : g.WellFormed) (hnew : g.probe ∉ gs.map (·.probe))
    (hr : r = ⟨r.line, addGroup (ofGroups gs) g, .groupName ""⟩)
    (hcs : cs = gs.flatMap (·.text) ++ g.text) : Spelled (gs ++ [g]) cs r := by
  rw [hr]
  refine ⟨?_, ?_, (ofGroups_concat gs g).symm, [], ?_, nofun, rfl⟩
  · intro g' hg'
    rcases List.mem_append.1 hg' with hg' | hg'
    · exact wellFormed g' hg'
    · rw [List.mem_singleton.1 hg']
      exact hg
  · rw [List.map_append, List.nodup_append]
    refine ⟨nodup, by simp, ?_⟩
    rintro p hp _ hq rfl
    rw [List.mem_singleton.1 hq] at hp
    exact hnew hp
  · simp [hcs]

/-- Adding a test leaves its name in the last place. -/
theorem outcome_addTest_eq_ok_iff {line nameLine : Nat} {probe : Probe} {es tests : Tests}
    {test value : String} :
    (addTest line nameLine probe (lastOfEach es) test value).outcome = .ok tests ↔
      (probe.accepts test ∨ (test, value) = (responsiveness, noAnswer)) ∧
        tests = lastOfEach (es ++ [(test, value)]) := by
  rw [outcome_addTest, lastOfEach_concat]
  by_cases h : probe.accepts test || Observation.meansSilence test value
  · rw [if_pos h]
    have hknown : probe.accepts test ∨ (test, value) = (responsiveness, noAnswer) := by
      simpa [Observation.meansSilence] using h
    simp only [hknown, true_and, Except.ok.injEq]
    exact eq_comm
  · rw [if_neg h]
    have hunknown : ¬ (probe.accepts test ∨ (test, value) = (responsiveness, noAnswer)) := by
      simpa [Observation.meansSilence] using h
    refine ⟨fun hfault => ?_, fun hknown => absurd hknown.1 hunknown⟩
    cases hfault

/-- What holds of the characters of a text and of one more holds of the text with it. -/
theorem forall_mem_push {P : Char → Prop} {s : String} {c : Char} (hs : ∀ d ∈ s.toList, P d)
    (hc : P c) : ∀ d ∈ (s.push c).toList, P d := by
  intro d hd
  rw [String.toList_push, List.mem_append, List.mem_singleton] at hd
  rcases hd with hd | rfl
  · exact hs d hd
  · exact hc

section
variable {gs : List Group} {cs : List Char} {r r' : Reading} {c : Char}

theorem Spelled.inGroupName {name : String} (h : Spelled gs cs r) (hp : r.place = .groupName name)
    (hr : (r.inGroupName name c).outcome = .ok r') : Spelled gs (cs ++ [c]) r' := by
  obtain ⟨rest, rfl, hrest⟩ := h.text
  rw [hp] at hrest
  obtain ⟨hname, rfl⟩ := hrest
  unfold Reading.inGroupName at hr
  split at hr
  · next hc =>
    subst hc
    unfold Reading.openGroup at hr
    split at hr
    · cases hr
    · next probe hprobe =>
      obtain rfl := Probe.ofName?_eq_some_iff.1 hprobe
      split at hr
      · cases hr
      · next hnew =>
        cases hr
        rw [h.query, contains_ofGroups] at hnew
        refine ⟨h.wellFormed, h.nodup, h.query, _, List.append_assoc .., hnew, by simp, [], by simp,
          rfl, ?_⟩
        simp [entriesBefore]
  · split at hr
    · next hc =>
      cases hr
      exact ⟨h.wellFormed, h.nodup, h.query, _, List.append_assoc .., forall_mem_push hname hc,
        by simp⟩
    · cases hr

theorem Spelled.inTestName {probe : Probe} {tests : Tests} {name : String} (h : Spelled gs cs r)
    (hp : r.place = .testName probe tests name)
    (hr : (r.inTestName probe tests name c).outcome = .ok r') :
    ∃ gs', Spelled gs' (cs ++ [c]) r' := by
  obtain ⟨rest, rfl, hrest⟩ := h.text
  rw [hp] at hrest
  obtain ⟨hnew, hname, es, hes, rfl, rfl⟩ := hrest
  unfold Reading.inTestName at hr
  split at hr
  · next hc =>
    subst hc
    split at hr
    · next hempty =>
      -- The brackets have nothing between them.
      obtain ⟨rfl, hnil⟩ := hempty
      obtain rfl := lastOfEach_eq_nil_iff.1 hnil
      obtain ⟨-, hr⟩ := (outcome_closeGroup_eq_ok_iff (g := ⟨probe, []⟩)).1 hr
      have hg : Group.WellFormed ⟨probe, []⟩ := ⟨by simp, by simp [Group.kept]⟩
      refine ⟨gs ++ [⟨probe, []⟩], .close h.wellFormed h.nodup hg hnew ?_ ?_⟩
      · rw [hr, h.query]
      · simp [Group.text_eq, entriesBefore, entriesText]
    · cases hr
  · split at hr
    · next hc =>
      subst hc
      split at hr
      · cases hr
      · next hne =>
        cases hr
        refine ⟨gs, h.wellFormed, h.nodup, h.query, _, List.append_assoc .., hnew, hne, hname,
          by simp, es, hes, rfl, ?_⟩
        simp [entryText]
    · split at hr
      · next hc =>
        cases hr
        refine ⟨gs, h.wellFormed, h.nodup, h.query, _, List.append_assoc .., hnew,
          forall_mem_push hname hc, es, hes, rfl, ?_⟩
        simp
      · cases hr

theorem Spelled.inValue {probe : Probe} {tests : Tests} {test text : String} {nameLine : Nat}
    (h : Spelled gs cs r) (hp : r.place = .value probe tests test nameLine text)
    (hr : (r.inValue probe tests test nameLine text c).outcome = .ok r') :
    ∃ gs', Spelled gs' (cs ++ [c]) r' := by
  obtain ⟨rest, rfl, hrest⟩ := h.text
  rw [hp] at hrest
  obtain ⟨hnew, hne, hname, hvalue, es, hes, rfl, rfl⟩ := hrest
  -- The entry is complete if the character ends the value and the test may be added.
  have admits (known : probe.accepts test ∨ (test, text) = (responsiveness, noAnswer)) :
      ∀ e ∈ es ++ [(test, text)], Group.Admits probe e := by
    intro e he
    rcases List.mem_append.1 he with he | he
    · exact hes e he
    · rw [List.mem_singleton.1 he]
      exact ⟨hne, hname, hvalue, known⟩
  unfold Reading.inValue at hr
  split at hr
  · next hc =>
    subst hc
    obtain ⟨tests, htests, hr⟩ := Logged.outcome_bind_eq_ok_iff.1 hr
    obtain ⟨known, rfl⟩ := outcome_addTest_eq_ok_iff.1 htests
    cases hr
    refine ⟨gs, h.wellFormed, h.nodup, h.query, _, List.append_assoc .., hnew, nofun,
      es ++ [(test, text)], admits known, rfl, ?_⟩
    simp [entriesBefore_concat]
  · split at hr
    · next hc =>
      subst hc
      obtain ⟨tests, htests, hr⟩ := Logged.outcome_bind_eq_ok_iff.1 hr
      obtain ⟨known, rfl⟩ := outcome_addTest_eq_ok_iff.1 htests
      obtain ⟨silence, hr⟩ :=
        (outcome_closeGroup_eq_ok_iff (g := ⟨probe, es ++ [(test, text)]⟩)).1 hr
      refine ⟨_, .close h.wellFormed h.nodup ⟨admits known, silence⟩ hnew ?_ ?_⟩
      · rw [hr, h.query]
      · simp [Group.text_eq, entriesText_concat]
    · split at hr
      · exact nomatch hr
      · next hpercent hclose hopen =>
        cases hr
        refine ⟨gs, h.wellFormed, h.nodup, h.query, _, List.append_assoc .., hnew, hne, hname,
          forall_mem_push hvalue ⟨hopen, hclose, hpercent⟩, es, hes, rfl, ?_⟩
        simp [entryText]

/-- A character that is read without a fault continues what was spelled. A blank spells nothing. -/
theorem Spelled.step (h : Spelled gs cs r) (hr : (r.step c).outcome = .ok r') :
    ∃ gs', Spelled gs' (cs ++ dropBlanks [c]) r' := by
  by_cases hc : isBlank c
  · have hplace : r'.query = r.query ∧ r'.place = r.place := by
      unfold Reading.step at hr
      split at hr
      · cases hr
        exact ⟨rfl, rfl⟩
      · cases hr
        exact ⟨rfl, rfl⟩
    refine ⟨gs, h.wellFormed, h.nodup, hplace.1.trans h.query, ?_⟩
    simpa [dropBlanks, hc, hplace.2] using h.text
  · have hc : isBlank c = false := by simpa using hc
    rw [Reading.step_of_not_isBlank _ hc, Reading.visible] at hr
    simp only [dropBlanks, hc, List.filter_cons, Bool.not_false, if_true, List.filter_nil]
    split at hr
    · next hp => exact ⟨gs, h.inGroupName hp hr⟩
    · next hp => exact h.inTestName hp hr
    · next hp => exact h.inValue hp hr

end

/-- Whatever was read without a fault is whole groups and the beginning of another. -/
theorem exists_spelled {cs : List Char} {r : Reading} (h : Reads .start cs r) :
    ∃ gs, Spelled gs (dropBlanks cs) r := by
  refine Logged.foldl_induct (I := fun cs r => ∃ gs, Spelled gs (dropBlanks cs) r) ?_ ?_ h
  · exact ⟨[], nofun, List.nodup_nil, rfl, [], rfl, nofun, rfl⟩
  · rintro cs c r r' ⟨gs, hgs⟩ hr
    rw [dropBlanks_append]
    exact hgs.step hr

/-! ## Which texts are queries -/

/-- A text that spells groups is the query of these groups. -/
theorem Spells.outcome_ofText {text : String} {gs : List Group} (h : Spells text gs) :
    (ofText text).outcome = .ok (ofGroups gs) := by
  have hreads : Reads .start (gs.flatMap (·.text)) ⟨1, ofGroups gs, .groupName ""⟩ :=
    @reads_groups 1 [] gs h.wellFormed h.visible h.nodup
  have hvisible :
      (ofText (String.ofList (dropBlanks text.toList))).outcome = .ok (ofGroups gs) := by
    unfold Reads at hreads
    simp [ofText, h.text, hreads, Reading.finish]
  have := outcome_ofText_dropBlanks text
  rw [hvisible] at this
  cases hx : (ofText text).outcome with
  | error fault => rw [hx] at this; cases this
  | ok q => rw [hx] at this; exact this

/-- **The grammar of queries.** A text is a query exactly if it spells groups, and the query is
theirs. -/
theorem outcome_ofText_eq_ok_iff {text : String} {q : Query} :
    (ofText text).outcome = .ok q ↔ ∃ gs, Spells text gs ∧ q = ofGroups gs := by
  refine ⟨fun h => ?_, fun h => ?_⟩
  · obtain ⟨r, hr, hfinish⟩ := Logged.outcome_bind_eq_ok_iff.1 h
    obtain ⟨gs, hgs⟩ := exists_spelled hr
    obtain ⟨rest, htext, hrest⟩ := hgs.text
    rw [Logged.outcome_ofExcept] at hfinish
    unfold Reading.finish at hfinish
    split at hfinish
    · next name hp =>
      split at hfinish
      · next hname =>
        rw [hp] at hrest
        obtain rfl : rest = [] := by simpa [hname] using hrest.2
        refine ⟨gs, ⟨by simpa using htext, hgs.wellFormed, hgs.nodup⟩, ?_⟩
        rw [← hgs.query]
        exact (Except.ok.inj hfinish).symm
      · exact nomatch hfinish
    · exact nomatch hfinish
    · exact nomatch hfinish
  · obtain ⟨gs, hgs, rfl⟩ := h
    exact hgs.outcome_ofText

/-- A text is a query exactly if, leaving blanks aside, it is well-formed groups of different
probes. It then reports what each group reports, in their order, however the text is divided into
groups. -/
theorem ofText_reads_exactly_spelled_groups (text : String) :
    ((∃ q, (ofText text).outcome = .ok q) ↔ ∃ gs, Spells text gs) ∧
      ∀ q gs, (ofText text).outcome = .ok q → Spells text gs →
        q.observations = gs.flatMap (·.observations) := by
  constructor
  · refine ⟨fun h => ?_, fun h => ?_⟩
    · obtain ⟨q, hq⟩ := h
      obtain ⟨gs, hgs, -⟩ := outcome_ofText_eq_ok_iff.1 hq
      exact ⟨gs, hgs⟩
    · obtain ⟨gs, hgs⟩ := h
      exact ⟨_, hgs.outcome_ofText⟩
  · intro q gs hq hgs
    obtain rfl : q = ofGroups gs := Except.ok.inj (hq.symm.trans hgs.outcome_ofText)
    exact observations_ofGroups gs

/-- A test that is given twice counts in the later place, and `R=N` may stand in a group without the
test `R`. -/
theorem ofText_reads_repeated_test_and_silence :
    ∃ q, (ofText "T1(DF=N % R=Y%\n DF=Y) OPS(R=N)").outcome = .ok q ∧
      q.observations = [⟨.t1, "R", "Y"⟩, ⟨.t1, "DF", "Y"⟩, .silence .ops] := by
  have spells : Spells "T1(DF=N % R=Y%\n DF=Y) OPS(R=N)"
      [⟨.t1, [("DF", "N"), ("R", "Y"), ("DF", "Y")]⟩, ⟨.ops, [("R", "N")]⟩] := by
    decide +kernel
  obtain ⟨q, hq⟩ := (ofText_reads_exactly_spelled_groups _).1.2 ⟨_, spells⟩
  exact ⟨q, hq, ((ofText_reads_exactly_spelled_groups _).2 q _ hq spells).trans rfl⟩

end Query

end OsDetection
