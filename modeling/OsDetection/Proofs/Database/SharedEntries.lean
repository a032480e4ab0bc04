import OsDetection.Proofs.Database.Boundaries

/-!
# The entry that decides a test

A group may name a test in several entries, and an entry may name several tests. What counts for a
test is the last entry that names it (`Entry.getElem?_ofList_pairs`). That a probe got no answer is
said by an entry `R=N` that stands alone in its group: beside others it is refused
(`Response.outcome_ofBody_of_mark`). An entry of several tests is never taken for the mark, so that
it may give the pattern `N` to the responsiveness test of a group which counts as answered. This is
the only way to come by such a group (`Database.unanswered_pattern_iff_shared`), and texts that go
this way are accepted (`Database.unanswered_pattern_beside_test`).
-/

namespace OsDetection

open OsDetection.Text

/-! ## The last entry of a test -/

namespace Entry

/-- The last of some entries that names a test. -/
def lastNaming? (test : String) (es : List Entry) : Option Entry :=
  (es.filter (test ∈ ·.names)).getLast?

theorem lastNaming?_concat (test : String) (es : List Entry) (e : Entry) :
    lastNaming? test (es ++ [e]) = if test ∈ e.names then some e else lastNaming? test es := by
  unfold lastNaming?
  by_cases h : test ∈ e.names <;> simp [h]

theorem lastNaming?_eq_some {test : String} {es : List Entry} {e : Entry}
    (h : lastNaming? test es = some e) : e ∈ es ∧ test ∈ e.names := by
  simpa using List.mem_filter.1 (List.mem_of_getLast? h)

/-- An entry takes each of its tests over from the pairs before it. -/
theorem getElem?_ofList_append_pairs (before : List (String × Pattern)) (e : Entry)
    (test : String) :
    (.ofList (before ++ e.pairs) : TestMap Pattern)[test]? =
      if test ∈ e.names then some e.pattern else (.ofList before : TestMap Pattern)[test]? := by
  obtain ⟨names, pattern⟩ := e
  unfold pairs
  induction names using List.reverseRecOn with
  | nil => simp
  | append_singleton names name ih =>
    rw [List.map_append, List.map_singleton, ← List.append_assoc, ofList_concat,
      Std.ExtTreeMap.getElem?_insert, ih]
    by_cases h : name = test
    · simp [h]
    · simp [h, Ne.symm h]

/-- A test has the pattern of the last entry that names it. -/
theorem getElem?_ofList_pairs (es : List Entry) (test : String) :
    (.ofList (es.flatMap (·.pairs)) : TestMap Pattern)[test]? =
      (lastNaming? test es).map (·.pattern) := by
  induction es using List.reverseRecOn with
  | nil => simp [lastNaming?]
  | append_singleton es e ih =>
    rw [List.flatMap_append, List.flatMap_singleton, getElem?_ofList_append_pairs, ih,
      lastNaming?_concat]
    split <;> rfl

end Entry

/-! ## The mark of silence -/

namespace Response

variable {probe : Probe} {body : List Char}

/-- A body with the mark of silence among its entries is the mark, or is refused. -/
theorem outcome_ofBody_of_mark (source : String) (line : Nat) (content : String)
    (h : "R=N".toList ∈ split '%' body) :
    body = "R=N".toList ∧ (ofBody source line content probe body).outcome = .ok .silent ∨
      ∃ fault, (ofBody source line content probe body).outcome = .error fault := by
  cases hread : (ofBody source line content probe body).outcome with
  | error fault => exact .inr ⟨fault, rfl⟩
  | ok r =>
    cases outcome_ofBody_eq_ok_iff.1 hread with
    | silent hbody =>
      rcases hbody with rfl | rfl
      · exact absurd h (by decide)
      · exact .inl ⟨rfl, rfl⟩
    | answered _ unmixed => exact absurd h unmixed

/-- In a group that counts as answered the responsiveness test has the pattern `N` exactly if the
last entry that names it has several names and this pattern. -/
theorem Describes.unanswered_pattern_iff {tests : TestMap Pattern}
    (h : Describes probe body (.answered tests)) :
    ∃ entries, List.Forall₂ (fun cs e => Entry.ofText cs = .ok e) (split '%' body) entries ∧
      ((∃ pattern, tests[responsiveness]? = some pattern ∧ pattern.source = noAnswer) ↔
        ∃ e, Entry.lastNaming? responsiveness entries = some e ∧ 2 ≤ e.names.length ∧
          e.pattern.source = noAnswer) := by
  cases h with
  | @answered entries read unmixed _ =>
    have hunmarked : ∀ e ∈ entries, ¬ e.isSilence := fun e he hsilent =>
      unmixed ((any_isSilence_iff read).1 (List.any_eq_true.2 ⟨e, he, hsilent⟩))
    refine ⟨entries, read, ?_⟩
    rw [Entry.getElem?_ofList_pairs]
    refine ⟨fun hpattern => ?_, fun hentry => ?_⟩
    · obtain ⟨pattern, hlast, hsource⟩ := hpattern
      obtain ⟨e, he, rfl⟩ := Option.map_eq_some_iff.1 hlast
      obtain ⟨hmem, hname⟩ := Entry.lastNaming?_eq_some he
      exact ⟨e, he, Entry.two_le_length_names (hunmarked e hmem) hname hsource, hsource⟩
    · obtain ⟨e, he, -, hsource⟩ := hentry
      exact ⟨e.pattern, by rw [he, Option.map_some], hsource⟩

end Response

/-! ## Databases -/

namespace Database

/-- What a fingerprint says of a probe is what a group of its record describes. -/
theorem exists_describes_of_ofText {source text : String} {d : Database}
    (hd : (ofText source text).outcome = .ok d) {f : Fingerprint} (hf : f ∈ d.fingerprints)
    {p : Probe} {r : Response Pattern} (hr : f.response? p = some r) :
    ∃ b ∈ records text, Gives b f ∧ ∃ body, (p, body) ∈ b.groups ∧ Response.Describes p body r := by
  obtain ⟨b, hb, hread⟩ := exists_mem_of_forall₂ (forall₂_readAs_records hd) hf
  have hgives := hread.isRecord_and_gives.2
  exact ⟨b, hb, hgives, (hgives.responses p r).1 hr⟩

/-- **Patterns that say no answer.** In a fingerprint of an accepted text, a group that counts as
answered has the pattern `N` for its responsiveness test exactly if an entry of several names gives
it, and is the last for this test in the group of the fingerprint's record. An entry that gives it
to the responsiveness test alone is the whole group, which counts as silent, or the group is
refused. -/
theorem unanswered_pattern_iff_shared {source text : String} {d : Database}
    (hd : (ofText source text).outcome = .ok d) :
    (∀ f ∈ d.fingerprints, ∀ p tests, f.response? p = some (.answered tests) →
      ∃ b ∈ records text, Gives b f ∧ ∃ body entries, (p, body) ∈ b.groups ∧
        List.Forall₂ (fun cs e => Entry.ofText cs = .ok e) (split '%' body) entries ∧
        ((∃ pattern, tests[responsiveness]? = some pattern ∧ pattern.source = noAnswer) ↔
          ∃ e, Entry.lastNaming? responsiveness entries = some e ∧ 2 ≤ e.names.length ∧
            e.pattern.source = noAnswer)) ∧
      ∀ (line : Nat) (content : String) (p : Probe) (body : List Char),
        "R=N".toList ∈ split '%' body →
        body = "R=N".toList ∧
            (Response.ofBody source line content p body).outcome = .ok .silent ∨
          ∃ fault, (Response.ofBody source line content p body).outcome = .error fault := by
  refine ⟨fun f hf p tests htests => ?_, fun line content p body hmark => ?_⟩
  · obtain ⟨b, hb, hgives, body, hbody, hdescribes⟩ := exists_describes_of_ofText hd hf htests
    obtain ⟨entries, hread, hiff⟩ := hdescribes.unanswered_pattern_iff
    exact ⟨b, hb, hgives, body, entries, hbody, hread, hiff⟩
  · exact Response.outcome_ofBody_of_mark source line content hmark

/-- The pattern that a database has for the responsiveness test of an answered probe, taken from
what its only fingerprint says. -/
theorem exists_answered_of_map_eq {x : Except Fault Database} {p : Probe} {source : String}
    (h : (x.map fun d => d.fingerprints.map fun f => (f.response? p).map fun r =>
      (r.isSilent, (r.get? responsiveness).map (·.source))) = .ok [some (false, some source)]) :
    ∃ d f tests pattern, x = .ok d ∧ f ∈ d.fingerprints ∧ f.response? p = some (.answered tests) ∧
      tests[responsiveness]? = some pattern ∧ pattern.source = source := by
  obtain ⟨d, hd, hresponses⟩ := map_eq_ok_iff.1 h
  obtain ⟨f, hf, hresponse⟩ := List.map_eq_singleton_iff.1 hresponses
  obtain ⟨r, hr, hparts⟩ := Option.map_eq_some_iff.1 hresponse
  obtain ⟨hanswered, hpattern⟩ := Prod.mk.inj hparts
  cases r with
  | silent => exact absurd hanswered (by decide)
  | answered tests =>
    obtain ⟨pattern, htest, hsource⟩ := Option.map_eq_some_iff.1 hpattern
    exact ⟨d, f, tests, pattern, hd, by simp [hf], hr, htest, hsource⟩

/-- The pattern that `R` and `DF` share stays with `R` when a later entry gives `DF` another. -/
theorem unanswered_pattern_iff_shared_later_entry :
    ∃ text d f tests, text = "MatchPoints\nT1(R=30)\n\nFingerprint box\nSEQ()\nOPS()\nWIN()\nECN()
T1(R|DF=N%DF=Y)\nT2()\nT3()\nT4()\nT5()\nT6()\nT7()\nU1()\nIE()" ∧
      (ofText "" text).outcome = .ok d ∧ f ∈ d.fingerprints ∧
      f.response? .t1 = some (.answered tests) ∧
      (∃ pattern, tests[responsiveness]? = some pattern ∧ pattern.source = noAnswer) ∧
      ∃ b ∈ records text, ∃ body entries, (Probe.t1, body) ∈ Block.groups b ∧
        List.Forall₂ (fun cs e => Entry.ofText cs = .ok e) (split '%' body) entries ∧
        ∃ e, Entry.lastNaming? responsiveness entries = some e ∧ 2 ≤ e.names.length := by
  generalize htext : "MatchPoints\nT1(R=30)\n\nFingerprint box\nSEQ()\nOPS()\nWIN()\nECN()
T1(R|DF=N%DF=Y)\nT2()\nT3()\nT4()\nT5()\nT6()\nT7()\nU1()\nIE()" = text
  obtain ⟨d, f, tests, pattern, hd, hf, hr, htest, hsource⟩ :=
    @exists_answered_of_map_eq (ofText "" text).outcome .t1 noAnswer
      (by rw [← htext]; decide +kernel)
  obtain ⟨b, hb, -, body, entries, hbody, hentries, hiff⟩ :=
    (unanswered_pattern_iff_shared hd).1 f hf .t1 tests hr
  obtain ⟨e, he, hlength, -⟩ := hiff.1 ⟨pattern, htest, hsource⟩
  exact ⟨text, d, f, tests, rfl, hd, hf, hr, ⟨pattern, htest, hsource⟩, b, hb, body, entries, hbody,
    hentries, e, he, hlength⟩

/-- A group that counts as answered and says by the pattern of `R` that it got no answer. -/
theorem unanswered_pattern_beside_test :
    ∃ d f tests pattern, (ofText "" "MatchPoints\nT1(R=30)\n\nFingerprint box\nSEQ()\nOPS()\nWIN()
ECN()\nT1(R|DF=N)\nT2()\nT3()\nT4()\nT5()\nT6()\nT7()\nU1()\nIE()").outcome = .ok d ∧
      f ∈ d.fingerprints ∧ f.response? .t1 = some (.answered tests) ∧
      tests[responsiveness]? = some pattern ∧ pattern.source = noAnswer :=
  exists_answered_of_map_eq (by decide +kernel)

end Database

end OsDetection
