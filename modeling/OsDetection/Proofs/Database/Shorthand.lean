import Mathlib.Algebra.GroupWithZero.Nat
import OsDetection.Proofs.Database.Written

/-!
# Entries of several tests are a shorthand

An entry such as `W1|W2=0` gives each of its tests the same pattern, and a group is read as the
pairs of a test and a pattern that its entries come to, in the order in which they are written. The
last pair of a test decides, each pair of a test that has one already gives a notice, and the first
test that the probe does not accept is told (`Response.ofBody_pair_by_pair`). So an entry of several
tests may be written as one entry for each of them (`Response.inFull`). There is one exception: the
mark of silence `R=N` has to be an entry of its own, and writing an entry of several tests in full
must not make one.
-/

namespace OsDetection

open OsDetection.Text

/-! ## Entries in full -/

namespace Entry

/-- An entry for each of the tests that a text names, in writing. -/
def inFull (cs : List Char) : List (List Char) :=
  match cut? '=' cs with
  | none => [cs]
  | some (names, source) => (split '|' names).map fun name => name ++ '=' :: source

/-- An entry for each of the tests of an entry. -/
def singles (e : Entry) : List Entry := e.names.map fun name => ⟨[name], e.pattern⟩

/-- An entry that is read is written in full as an entry for each of its tests. -/
theorem inFull_of_ofText {cs : List Char} {e : Entry} (h : ofText cs = .ok e) :
    inFull cs = e.names.map fun name => entryText name e.pattern.source.toList := by
  obtain ⟨names, hcut, hnames⟩ := ofText_eq_ok_iff.1 h
  simp only [inFull, hcut]
  rw [← map_toList_of_forall₂ hnames, List.map_map]
  rfl

/-- The names of an entry are spelled as test names are. -/
theorem spelling_of_mem_names {cs : List Char} {e : Entry} (h : ofText cs = .ok e) {name : String}
    (hname : name ∈ e.names) : name.toList ≠ [] ∧ ∀ c ∈ name.toList, c.isAlphanum := by
  obtain ⟨names, -, hnames⟩ := ofText_eq_ok_iff.1 h
  obtain ⟨piece, -, hread⟩ := exists_mem_of_forall₂ hnames hname
  obtain ⟨rfl, hspelling⟩ := nameOfText_eq_ok_iff.1 hread
  exact hspelling

/-- What is written in full is read as these entries. -/
theorem forall₂_inFull {cs : List Char} {e : Entry} (h : ofText cs = .ok e) :
    List.Forall₂ (fun cs e => ofText cs = .ok e) (inFull cs) e.singles := by
  rw [inFull_of_ofText h]
  refine List.forall₂_map_left_iff.2 (List.forall₂_map_right_iff.2 (List.forall₂_same.2 ?_))
  intro name hname
  obtain ⟨hne, halphanum⟩ := spelling_of_mem_names h hname
  exact ofText_entryText halphanum hne e.pattern

/-- Writing an entry in full makes no further pieces of a body. -/
theorem not_mem_of_mem_inFull {cs piece : List Char} {e : Entry} (h : ofText cs = .ok e)
    (hcs : '%' ∉ cs) (hpiece : piece ∈ inFull cs) : '%' ∉ piece := by
  rw [← text_eq_of_ofText h, text] at hcs
  rw [inFull_of_ofText h] at hpiece
  obtain ⟨name, hname, rfl⟩ := List.mem_map.1 hpiece
  intro hmem
  rcases List.mem_append.1 hmem with hmem | hmem
  · exact not_mem_of_isAlphanum (spelling_of_mem_names h hname).2 (by decide) hmem
  · exact hcs (List.mem_append_right _ hmem)

section
variable {es : List Entry}

/-- Entries for each of the tests come to the same pairs. -/
theorem flatMap_pairs_singles (es : List Entry) :
    (es.flatMap (·.singles)).flatMap (·.pairs) = es.flatMap (·.pairs) := by
  have hentry (e : Entry) : e.singles.flatMap (·.pairs) = e.pairs := by
    rw [singles, List.flatMap_map, pairs, List.map_eq_flatMap]
    rfl
  simp only [List.flatMap_assoc, hentry]

/-- They are at least as many. -/
theorem length_le_length_singles (h : ∀ e ∈ es, e.names ≠ []) :
    es.length ≤ (es.flatMap (·.singles)).length := by
  induction es with
  | nil => simp
  | cons e es ih =>
    obtain ⟨hnames, hes⟩ := List.forall_mem_cons.1 h
    have hpos : 0 < e.singles.length := by simpa [singles, List.length_pos_iff] using hnames
    have hrest := ih hes
    rw [List.flatMap_cons, List.length_append, List.length_cons]
    omega

/-- Unless an entry of several tests gives the pattern `N` to the responsiveness test, one of them
gives notice of silence exactly if an entry does. -/
theorem any_isSilence_singles
    (h : ∀ e ∈ es, 2 ≤ e.names.length → responsiveness ∈ e.names → e.pattern.source ≠ noAnswer) :
    (es.flatMap (·.singles)).any (·.isSilence) ↔ es.any (·.isSilence) := by
  simp only [List.any_eq_true, List.mem_flatMap, singles, List.mem_map]
  constructor
  · rintro ⟨_, ⟨e, he, name, hname, rfl⟩, hsilence⟩
    obtain ⟨rfl, hsource⟩ : name = responsiveness ∧ e.pattern.source = noAnswer := by
      simpa [isSilence] using hsilence
    refine ⟨e, he, ?_⟩
    by_contra hmark
    exact h e he (two_le_length_names hmark hname hsource) hname hsource
  · rintro ⟨e, he, hsilence⟩
    obtain ⟨hnames, hsource⟩ : e.names = [responsiveness] ∧ e.pattern.source = noAnswer := by
      simpa [isSilence] using hsilence
    exact ⟨_, ⟨e, he, responsiveness, by simp [hnames], rfl⟩, by simp [isSilence, hsource]⟩

end

end Entry

/-! ## Reading the pairs -/

namespace Response

section
variable {source content : String} {line : Nat} {probe : Probe} {tests next : TestMap Pattern}
  {pair : String × Pattern} {pairs : List (String × Pattern)}

/-- A pair either has a new test or gives a notice. -/
theorem length_notices_define (h : (define source line probe tests pair).outcome = .ok next) :
    (define source line probe tests pair).notices.length + next.size = tests.size + 1 := by
  unfold define at h ⊢
  split at h
  · next haccepts =>
    rw [if_pos haccepts]
    split at h
    · next hmem =>
      obtain rfl : tests.insert pair.1 pair.2 = next := Except.ok.inj h
      rw [if_pos hmem, Std.ExtTreeMap.size_insert, if_pos hmem, Nat.add_comm]
      rfl
    · next hnew =>
      obtain rfl : tests.insert pair.1 pair.2 = next := Except.ok.inj h
      rw [if_neg hnew, Std.ExtTreeMap.size_insert, if_neg hnew]
      exact Nat.zero_add _
  · cases h

/-- So the notices are as many as the pairs that are not the first of their test. -/
theorem length_notices_foldl_define
    (h : (Logged.foldl (define source line probe) tests pairs).outcome = .ok next) :
    (Logged.foldl (define source line probe) tests pairs).notices.length + next.size =
      tests.size + pairs.length := by
  induction pairs generalizing tests with
  | nil =>
    obtain rfl : tests = next := Except.ok.inj h
    exact Nat.zero_add _
  | cons pair pairs ih =>
    rw [Logged.foldl_cons] at h ⊢
    obtain ⟨mid, hpair, hpairs⟩ := Logged.outcome_bind_eq_ok_iff.1 h
    have hstep := length_notices_define hpair
    have hrest := ih hpairs
    rw [Logged.notices_bind_of_ok hpair, List.length_append, List.length_cons]
    omega

/-- Each notice tells of a test that is written again. -/
theorem mem_notices_foldl_define :
    ∀ notice ∈ (Logged.foldl (define source line probe) tests pairs).notices,
      ∃ test ∈ pairs.map (·.1), notice = .repeatedTest source line test probe := by
  refine Logged.forall_notices_foldl fun pair hpair tests notice hnotice => ?_
  unfold define at hnotice
  split at hnotice
  · split at hnotice
    · exact ⟨pair.1, List.mem_map_of_mem hpair, List.mem_singleton.1 hnotice⟩
    · simp at hnotice
  · simp at hnotice

end

/-! ## Reading the entries -/

section
variable {source content : String} {line : Nat} {probe : Probe} {entries : List Entry}

/-- Entries describe an answered probe exactly if the mark is not among them and all their tests are
accepted. -/
theorem exists_outcome_ofEntries_eq_answered_iff :
    (∃ tests, (ofEntries source line content probe entries).outcome = .ok (.answered tests)) ↔
      ¬ entries.any (·.isSilence) ∧ ∀ pair ∈ entries.flatMap (·.pairs), probe.accepts pair.1 := by
  constructor
  · rintro ⟨tests, htests⟩
    rcases outcome_ofEntries_eq_ok_iff.1 htests with ⟨-, -, hsilent⟩ | ⟨hmark, accepted, -⟩
    · cases hsilent
    · exact ⟨hmark, accepted⟩
  · rintro ⟨hmark, accepted⟩
    exact ⟨_, outcome_ofEntries_eq_ok_iff.2 (.inr ⟨hmark, accepted, rfl⟩)⟩

/-- Then each test has the pattern of its last pair, and each pair that is lost gives a notice. -/
theorem answered_of_ofEntries {tests : TestMap Pattern}
    (h : (ofEntries source line content probe entries).outcome = .ok (.answered tests)) :
    (∀ test pattern, tests[test]? = some pattern ↔ ∃ before after,
      entries.flatMap (·.pairs) = before ++ (test, pattern) :: after ∧ test ∉ after.map (·.1)) ∧
    (∀ test, test ∈ tests ↔ test ∈ (entries.flatMap (·.pairs)).map (·.1)) ∧
    (∀ test ∈ tests, probe.accepts test) ∧
    (ofEntries source line content probe entries).notices.length + tests.size =
      (entries.flatMap (·.pairs)).length ∧
    ∀ notice ∈ (ofEntries source line content probe entries).notices,
      ∃ test ∈ tests, notice = .repeatedTest source line test probe := by
  rcases outcome_ofEntries_eq_ok_iff.1 h with ⟨-, -, hsilent⟩ | ⟨hmark, accepted, hmap⟩
  · cases hsilent
  obtain rfl : tests = .ofList (entries.flatMap (·.pairs)) := by
    injection hmap
  have hkeys (test : String) : test ∈ (.ofList (entries.flatMap (·.pairs)) : TestMap Pattern) ↔
      test ∈ (entries.flatMap (·.pairs)).map (·.1) := by
    rw [Std.ExtTreeMap.mem_ofList, List.contains_iff_mem]
  have hfold := (@outcome_foldl_define_eq_ok_iff source line probe []
    (entries.flatMap (·.pairs)) _).2 ⟨accepted, rfl⟩
  rw [notices_ofEntries hmark]
  refine ⟨fun test pattern => getElem?_ofList_iff_last, hkeys, fun test htest => ?_, ?_, ?_⟩
  · obtain ⟨pair, hpair, rfl⟩ := List.mem_map.1 ((hkeys test).1 htest)
    exact accepted pair hpair
  · simpa using length_notices_foldl_define hfold
  · intro notice hnotice
    obtain ⟨test, htest, hnotice⟩ := mem_notices_foldl_define notice hnotice
    exact ⟨test, (hkeys test).2 htest, hnotice⟩

/-- An unknown test is told exactly if the mark is not among the entries and it is the first test
that is not accepted. -/
theorem outcome_ofEntries_eq_unknownTest_iff {l : Nat} {p : Probe} {test : String} :
    (ofEntries source line content probe entries).outcome = .error (.unknownTest l p test) ↔
      l = line ∧ p = probe ∧ ¬ entries.any (·.isSilence) ∧
        ((entries.flatMap (·.pairs)).map (·.1)).find? (!probe.accepts ·) = some test := by
  rw [outcome_ofEntries_eq_error_iff]
  constructor
  · rintro (⟨-, -, hfault⟩ | ⟨hmark, test', hfind, hfault⟩)
    · cases hfault
    · cases hfault
      exact ⟨rfl, rfl, hmark, hfind⟩
  · rintro ⟨rfl, rfl, hmark, hfind⟩
    exact .inr ⟨hmark, test, hfind, rfl⟩

end

/-! ## Bodies in full -/

/-- A body with every entry of several tests written as an entry for each of them. -/
def inFull (body : List Char) : List Char :=
  ['%'].intercalate ((split '%' body).flatMap Entry.inFull)

section
variable {body : List Char} {entries : List Entry}
  (read : List.Forall₂ (fun cs e => Entry.ofText cs = .ok e) (split '%' body) entries)
include read

/-- A body in full is cut into the entries in full. -/
theorem split_inFull : split '%' (inFull body) = (split '%' body).flatMap Entry.inFull := by
  have hread : ∀ cs ∈ split '%' body, ∃ e, Entry.ofText cs = .ok e :=
    exists_forall₂_iff.1 ⟨entries, read⟩
  refine split_intercalate ?_ fun piece hpiece => ?_
  · intro hnil
    obtain ⟨cs, hcs⟩ := List.exists_mem_of_ne_nil _ (split_ne_nil '%' body)
    obtain ⟨e, he⟩ := hread cs hcs
    have hempty := List.flatMap_eq_nil_iff.1 hnil cs hcs
    rw [Entry.inFull_of_ofText he, List.map_eq_nil_iff] at hempty
    exact Entry.names_ne_nil he hempty
  · obtain ⟨cs, hcs, hmem⟩ := List.mem_flatMap.1 hpiece
    obtain ⟨e, he⟩ := hread cs hcs
    exact Entry.not_mem_of_mem_inFull he (not_mem_of_mem_split hcs) hmem

/-- Its entries are those for each of the tests. -/
theorem read_inFull : List.Forall₂ (fun cs e => Entry.ofText cs = .ok e)
    (split '%' (inFull body)) (entries.flatMap (·.singles)) := by
  rw [split_inFull read]
  exact List.rel_flatMap read fun _ _ he => Entry.forall₂_inFull he

/-- It describes the same, unless writing it in full makes a mark of silence. -/
theorem outcome_ofBody_inFull {source content source' content' : String} {line line' : Nat}
    {probe : Probe} (h : ∀ e ∈ entries, 2 ≤ e.names.length → responsiveness ∈ e.names →
      e.pattern.source ≠ noAnswer) (r : Response Pattern) :
    (ofBody source' line' content' probe (inFull body)).outcome = .ok r ↔
      (ofBody source line content probe body).outcome = .ok r := by
  have hnames : ∀ e ∈ entries, e.names ≠ [] := by
    intro e he
    obtain ⟨cs, -, hcs⟩ := exists_mem_of_forall₂ read he
    exact Entry.names_ne_nil hcs
  have hlength (hmark : entries.any (·.isSilence)) :
      (entries.flatMap (·.singles)).length = 1 ↔ entries.length = 1 := by
    constructor
    · intro hone
      have hle := Entry.length_le_length_singles hnames
      have hpos : entries ≠ [] := by
        rintro rfl
        cases hmark
      have := List.length_pos_iff.2 hpos
      omega
    · intro hone
      obtain ⟨e, rfl⟩ := List.length_eq_one_iff.1 hone
      obtain ⟨hsingle, -⟩ : e.names = [responsiveness] ∧ e.pattern.source = noAnswer := by
        simpa [Entry.isSilence] using hmark
      simp [Entry.singles, hsingle]
  rw [ofBody_eq_ofEntries read, ofBody_eq_ofEntries (read_inFull read),
    outcome_ofEntries_eq_ok_iff, outcome_ofEntries_eq_ok_iff, Entry.any_isSilence_singles h,
    Entry.flatMap_pairs_singles]
  refine or_congr_left (and_congr_right fun hmark => ?_)
  rw [hlength hmark]

end

/-- **Group bodies pair by pair.** The entries of a body come to pairs of a test and a pattern, in
the order in which they are written. The body describes an answered probe exactly if the mark of
silence is not among its entries and the probe accepts every test of a pair. Then each test has the
pattern of its last pair, there are no other tests, and the notices, each of a test that is written
again, are as many as the pairs that the map has lost. If a test is told as unknown, it is the
first that the probe does not accept. A body written in full describes the same or fails as well,
provided that no entry of several tests gives the pattern `N` to the responsiveness test. -/
theorem ofBody_pair_by_pair (source content : String) (line : Nat) (probe : Probe)
    {body : List Char} {entries : List Entry}
    (read : List.Forall₂ (fun cs e => Entry.ofText cs = .ok e) (split '%' body) entries) :
    ((∃ tests, (ofBody source line content probe body).outcome = .ok (.answered tests)) ↔
      "R=N".toList ∉ split '%' body ∧
        ∀ pair ∈ entries.flatMap (·.pairs), probe.accepts pair.1) ∧
    (∀ tests, (ofBody source line content probe body).outcome = .ok (.answered tests) →
      (∀ test pattern, tests[test]? = some pattern ↔ ∃ before after,
        entries.flatMap (·.pairs) = before ++ (test, pattern) :: after ∧
          test ∉ after.map (·.1)) ∧
      (∀ test, test ∈ tests ↔ test ∈ (entries.flatMap (·.pairs)).map (·.1)) ∧
      (∀ test ∈ tests, probe.accepts test) ∧
      (ofBody source line content probe body).notices.length + tests.size =
        (entries.flatMap (·.pairs)).length ∧
      ∀ notice ∈ (ofBody source line content probe body).notices,
        ∃ test ∈ tests, notice = .repeatedTest source line test probe) ∧
    (∀ l p test, (ofBody source line content probe body).outcome = .error (.unknownTest l p test) ↔
      l = line ∧ p = probe ∧ "R=N".toList ∉ split '%' body ∧
        ((entries.flatMap (·.pairs)).map (·.1)).find? (!probe.accepts ·) = some test) ∧
    ((∀ e ∈ entries, 2 ≤ e.names.length → responsiveness ∈ e.names →
        e.pattern.source ≠ noAnswer) →
      ∀ source' content' line' r,
        (ofBody source' line' content' probe (inFull body)).outcome = .ok r ↔
          (ofBody source line content probe body).outcome = .ok r) := by
  have hmark := any_isSilence_iff read
  refine ⟨?_, ?_, ?_, fun h source' content' line' r => outcome_ofBody_inFull read h r⟩
  all_goals rw [ofBody_eq_ofEntries read]
  · rw [exists_outcome_ofEntries_eq_answered_iff, hmark]
  · exact fun tests htests => answered_of_ofEntries htests
  · intro l p test
    rw [outcome_ofEntries_eq_unknownTest_iff, hmark]

/-- `W1` is given twice: its last pattern counts, and there is one notice. In full the body has
three entries, and describes the same. Of two tests that are not accepted the first is told, which
other probes have. -/
theorem ofBody_pair_by_pair_windows :
    (∃ tests, (ofBody "db" 7 "" .win "W1|W2=0%W1=5B40".toList).outcome = .ok (.answered tests) ∧
      (∃ pattern, tests["W1"]? = some pattern ∧ pattern.source = "5B40") ∧
      (ofBody "db" 7 "" .win "W1|W2=0%W1=5B40".toList).notices.length + tests.size = 3 ∧
      (ofBody "db" 7 "" .win "W1=0%W2=0%W1=5B40".toList).outcome = .ok (.answered tests)) ∧
    (ofBody "db" 7 "" .win "W1|DF=0%W10=5B40".toList).outcome =
      .error (.unknownTest 7 .win "DF") := by
  constructor
  · obtain ⟨entries, hentries, hparts⟩ : ∃ es,
        (split '%' "W1|W2=0%W1=5B40".toList).mapM Entry.ofText = .ok es ∧
          es.map (fun e => (e.names, e.pattern.source)) = [(["W1", "W2"], "0"), (["W1"], "5B40")] :=
      map_eq_ok_iff.1 (by decide +kernel)
    obtain ⟨e, rest, rfl, he, hrest⟩ := List.map_eq_cons_iff.1 hparts
    obtain ⟨e', rfl, he'⟩ := List.map_eq_singleton_iff.1 hrest
    obtain ⟨hnames, -⟩ := Prod.mk.inj he
    obtain ⟨hnames', hsource⟩ := Prod.mk.inj he'
    have hpairs : [e, e'].flatMap (·.pairs) =
        [("W1", e.pattern), ("W2", e.pattern), ("W1", e'.pattern)] := by
      simp [Entry.pairs, hnames, hnames']
    obtain ⟨hanswered, hmap, -, hfull⟩ :=
      ofBody_pair_by_pair "db" "" 7 .win (mapM_eq_ok_iff.1 hentries)
    rw [hpairs] at hanswered hmap
    obtain ⟨tests, htests⟩ := hanswered.2 ⟨by decide +kernel, by simp; decide⟩
    obtain ⟨hlast, -, -, hcount, -⟩ := hmap tests htests
    have hunmixed : ∀ e'' ∈ [e, e'], 2 ≤ e''.names.length → responsiveness ∈ e''.names →
        e''.pattern.source ≠ noAnswer := by
      simp [hnames, hnames', responsiveness]
    refine ⟨tests, htests, ⟨e'.pattern, ?_, hsource⟩, hcount, ?_⟩
    · exact (hlast _ _).2 ⟨[("W1", e.pattern), ("W2", e.pattern)], [], rfl, by simp⟩
    · exact (hfull hunmixed "db" "" 7 _).2 htests
  · obtain ⟨entries, hentries, hparts⟩ : ∃ es,
        (split '%' "W1|DF=0%W10=5B40".toList).mapM Entry.ofText = .ok es ∧
          es.map (·.names) = [["W1", "DF"], ["W10"]] :=
      map_eq_ok_iff.1 (by decide +kernel)
    have hnames : (entries.flatMap (·.pairs)).map (·.1) = (entries.map (·.names)).flatten := by
      simp [List.flatMap_def, Entry.pairs, Function.comp_def]
    obtain ⟨-, -, hunknown, -⟩ :=
      ofBody_pair_by_pair "db" "" 7 .win (mapM_eq_ok_iff.1 hentries)
    refine (hunknown 7 .win "DF").2 ⟨rfl, rfl, by decide +kernel, ?_⟩
    rw [hnames, hparts]
    decide

end Response

end OsDetection
