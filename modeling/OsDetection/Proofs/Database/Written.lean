import OsDetection.Database.Printer
import OsDetection.Proofs.Database.Legal
import OsDetection.Proofs.Numeral.Written

/-!
# Groups in writing

A group is written as its entries, each a test and what is said about it, separated by `%`. An entry
that holds no sign of this notation (`Text.Unreserved`) is read back, and so is the body made of
such entries: as the tests of a response (`Response.Writable.describes`), or as those of a row of
the point table (`PointRow.describes`). If no test is written twice, then reading the body gives no
notice (`Response.notices_ofBody`), whatever is said about the tests.
-/

namespace OsDetection

open OsDetection.Text OsDetection.Numeral

/-! ## Characters -/

namespace Text

/-- A text that holds none of the signs that separate entries, groups and lines. -/
def Unreserved (cs : List Char) : Prop := ∀ c ∈ cs, c ∉ ['%', '(', ')', '\n']

theorem unreserved_append_iff {cs ds : List Char} :
    Unreserved (cs ++ ds) ↔ Unreserved cs ∧ Unreserved ds := by
  simp only [Unreserved, List.forall_mem_append]

/-- A character that is no letter or digit is not in a text of letters and digits. -/
theorem not_mem_of_isAlphanum {cs : List Char} (h : ∀ c ∈ cs, c.isAlphanum) {c : Char}
    (hc : c.isAlphanum = false) : c ∉ cs := by
  intro hmem
  rw [h c hmem] at hc
  cases hc

theorem unreserved_of_isAlphanum {cs : List Char} (h : ∀ c ∈ cs, c.isAlphanum) : Unreserved cs := by
  have hsigns : ['%', '(', ')', '\n'].all (fun c => !c.isAlphanum) := by decide
  intro c hc hmem
  exact not_mem_of_isAlphanum h (by simpa using List.all_eq_true.1 hsigns c hmem) hc

/-- What holds of the characters of a separator and of pieces holds of the joined text. -/
theorem forall_mem_intercalate {P : Char → Prop} {sep : List Char} {pieces : List (List Char)}
    (hsep : ∀ c ∈ sep, P c) (h : ∀ piece ∈ pieces, ∀ c ∈ piece, P c) :
    ∀ c ∈ sep.intercalate pieces, P c := by
  induction pieces with
  | nil => simp
  | cons piece pieces ih =>
    obtain ⟨hpiece, hpieces⟩ := List.forall_mem_cons.1 h
    cases pieces with
    | nil => simpa using hpiece
    | cons next pieces =>
      rw [List.intercalate_cons_cons]
      exact List.forall_mem_append.2 ⟨List.forall_mem_append.2 ⟨hpiece, hsep⟩, ih hpieces⟩

end Text

/-! ## Entries -/

section
variable {test : String} {said : List Char} (hname : ∀ c ∈ test.toList, c.isAlphanum)
include hname

/-- An entry is unreserved if what it says is. -/
theorem unreserved_entryText (hsaid : Unreserved said) : Unreserved (entryText test said) := by
  have hequals : Unreserved ['='] := by simp [Unreserved]
  rw [entryText, ← List.singleton_append, unreserved_append_iff, unreserved_append_iff]
  exact ⟨unreserved_of_isAlphanum hname, hequals, hsaid⟩

/-- The first equals sign of an entry stands behind the test. -/
theorem cut?_entryText : cut? '=' (entryText test said) = some (test.toList, said) :=
  cut?_eq_some_iff.2 ⟨rfl, not_mem_of_isAlphanum hname (by decide)⟩

/-- The test is the only one. -/
theorem split_test : split '|' test.toList = [test.toList] :=
  split_of_not_mem (not_mem_of_isAlphanum hname (by decide))

/-- Whatever an entry says, it says of its test alone. -/
theorem Entry.names_of_entryText {e : Entry} (h : ofText (entryText test said) = .ok e) :
    e.names = [test] := by
  obtain ⟨names, hcut, hnames⟩ := ofText_eq_ok_iff.1 h
  obtain ⟨rfl, -⟩ : test.toList = names ∧ said = e.pattern.source.toList := by
    simpa [cut?_entryText hname] using hcut
  rw [split_test hname, List.forall₂_cons_left_iff] at hnames
  obtain ⟨name, rest, hread, hrest, heq⟩ := hnames
  rw [List.forall₂_nil_left_iff.1 hrest, String.toList_inj.1 (toList_of_nameOfText hread)] at heq
  exact heq

/-- An entry that gives a test a pattern is read back. -/
theorem Entry.ofText_entryText (hne : test.toList ≠ []) (p : Pattern) :
    ofText (entryText test p.source.toList) = .ok ⟨[test], p⟩ := by
  refine ofText_eq_ok_iff.2 ⟨test.toList, cut?_entryText hname, ?_⟩
  rw [split_test hname]
  exact .cons (nameOfText_eq_ok_iff.2 ⟨rfl, hne, hname⟩) .nil

end

/-- Entries that were read name the tests that they were written for. -/
theorem Entry.map_fst_pairs {es : List (String × List Char)} {entries : List Entry}
    (hnames : ∀ e ∈ es, ∀ c ∈ e.1.toList, c.isAlphanum)
    (h : List.Forall₂ (fun cs e => ofText cs = .ok e) (es.map fun e => entryText e.1 e.2) entries) :
    (entries.flatMap (·.pairs)).map (·.1) = es.map (·.1) := by
  induction es generalizing entries with
  | nil =>
    cases h
    rfl
  | cons e es ih =>
    obtain ⟨hname, hnames⟩ := List.forall_mem_cons.1 hnames
    cases h with
    | @cons _ entry _ entries hread hrest =>
      rw [List.flatMap_cons, List.map_append, ih hnames hrest, Entry.pairs,
        Entry.names_of_entryText hname hread]
      rfl

/-- Tests and what is said about them, as the body of a group. -/
def bodyText (es : List (String × List Char)) : List Char :=
  ['%'].intercalate (es.map fun e => entryText e.1 e.2)

/-- Tests that are spelled as test names are, and what is said about them without the signs of the
notation. -/
def WellSpelled (es : List (String × List Char)) : Prop :=
  ∀ e ∈ es, (∀ c ∈ e.1.toList, c.isAlphanum) ∧ Unreserved e.2

section
variable {es : List (String × List Char)} (hentries : WellSpelled es)
include hentries

/-- A body holds no signs but those between its entries. -/
theorem forall_mem_bodyText : ∀ c ∈ bodyText es, c ∉ ['(', ')', '\n'] := by
  refine forall_mem_intercalate (by simp) fun piece hpiece c hc => ?_
  obtain ⟨e, he, rfl⟩ := List.mem_map.1 hpiece
  obtain ⟨hname, hsaid⟩ := hentries e he
  exact fun hmem => unreserved_entryText hname hsaid c hc (List.mem_cons_of_mem _ hmem)

/-- So it stands between its brackets as a whole. -/
theorem brackets_not_mem_bodyText : '(' ∉ bodyText es ∧ ')' ∉ bodyText es :=
  ⟨fun hmem => forall_mem_bodyText hentries _ hmem (by simp),
    fun hmem => forall_mem_bodyText hentries _ hmem (by simp)⟩

/-- A body is cut into its entries. -/
theorem split_bodyText (hne : es ≠ []) :
    split '%' (bodyText es) = es.map fun e => entryText e.1 e.2 := by
  refine split_intercalate (by simpa using hne) fun piece hpiece hmem => ?_
  obtain ⟨e, he, rfl⟩ := List.mem_map.1 hpiece
  obtain ⟨hname, hsaid⟩ := hentries e he
  exact unreserved_entryText hname hsaid '%' hmem (by simp)

end

/-! ## Responses -/

namespace Response

/-- A response that can be written: a pattern must hold no sign of the notation, and that of the
test `R` must not be the marker of silence. -/
structure Writable (probe : Probe) (r : Response Pattern) : Prop extends Legal probe r where
  unreserved : ∀ test pattern, r.get? test = some pattern → Unreserved pattern.source.toList
  unmarked : ∀ pattern, r.get? responsiveness = some pattern → pattern.source ≠ noAnswer

/-- Silence can always be written. -/
theorem writable_silent (probe : Probe) : Writable probe silent :=
  ⟨⟨by simp, by simp [get?, tests], by simp [get?, tests]⟩, by simp [get?, tests],
    by simp [get?, tests]⟩

/-- What is written of a response. -/
def entries : Response Pattern → List (String × List Char)
  | silent => []
  | answered tests => tests.toList.map fun test => (test.1, test.2.source.toList)

variable {probe : Probe} {r : Response Pattern}

theorem responseLine_eq (probe : Probe) (r : Response Pattern) :
    Fingerprint.responseLine probe r =
      probe.name.toList ++ '(' :: (bodyText r.entries ++ [')']) := by
  cases r with
  | silent => rfl
  | answered tests =>
    simp [Fingerprint.responseLine, groupLine, bodyText, entries, Function.comp_def]

/-- What is written of a response is the source of a pattern for a test of it. -/
theorem exists_of_mem_entries {e : String × List Char} (he : e ∈ r.entries) :
    ∃ pattern, r.get? e.1 = some pattern ∧ e.2 = pattern.source.toList := by
  cases r with
  | silent => simp [entries] at he
  | answered tests =>
    obtain ⟨⟨test, pattern⟩, hmem, rfl⟩ := List.mem_map.1 he
    exact ⟨pattern, Std.ExtTreeMap.mem_toList_iff_getElem?_eq_some.1 hmem, rfl⟩

/-- No test is written twice. -/
theorem nodup_entries (r : Response Pattern) : (r.entries.map (·.1)).Nodup := by
  cases r with
  | silent => exact List.nodup_nil
  | answered tests =>
    rw [entries, List.map_map]
    exact nodup_fst_toList tests

/-- The entries of a response that can be written are spelled as entries are. -/
theorem Writable.wellSpelled (h : r.Writable probe) : WellSpelled r.entries := by
  intro e he
  obtain ⟨pattern, hpattern, hsaid⟩ := exists_of_mem_entries he
  exact ⟨(Probe.spelling_of_accepts (h.accepted _ _ hpattern)).2,
    hsaid ▸ h.unreserved _ _ hpattern⟩

/-- No entry of a response that can be written is the marker of silence. -/
theorem Writable.ne_marker (h : r.Writable probe) {e : String × List Char} (he : e ∈ r.entries) :
    entryText e.1 e.2 ≠ "R=N".toList := by
  intro heq
  have hcut := @cut?_entryText _ e.2 (h.wellSpelled e he).1
  rw [heq] at hcut
  obtain ⟨htest, hsaid⟩ : "R".toList = e.1.toList ∧ "N".toList = e.2 :=
    Prod.mk.injEq .. ▸ Option.some.inj hcut
  obtain ⟨pattern, hpattern, hsource⟩ := exists_of_mem_entries he
  rw [← String.toList_inj.1 htest] at hpattern
  exact h.unmarked pattern hpattern (String.toList_inj.1 (hsource.symm.trans hsaid.symm))

/-- What is written of a response describes it. -/
theorem Writable.describes (h : r.Writable probe) : Describes probe (bodyText r.entries) r := by
  cases hr : r with
  | silent => exact .silent (.inl rfl)
  | answered tests =>
    rw [hr] at h
    have hne : tests.toList ≠ [] := mt Std.ExtTreeMap.toList_eq_nil_iff.1 (h.answered tests rfl)
    have hsplit := split_bodyText h.wellSpelled (by simpa [entries] using hne)
    have hget {pair : String × Pattern} (hpair : pair ∈ tests.toList) :
        (answered tests).get? pair.1 = some pair.2 :=
      Std.ExtTreeMap.mem_toList_iff_getElem?_eq_some.1 hpair
    have hpairs : (tests.toList.map fun pair => (⟨[pair.1], pair.2⟩ : Entry)).flatMap (·.pairs) =
        tests.toList := by
      simp [List.flatMap_map, Entry.pairs]
    have hread : List.Forall₂ (fun cs e => Entry.ofText cs = .ok e)
        (split '%' (bodyText (answered tests).entries))
        (tests.toList.map fun pair => ⟨[pair.1], pair.2⟩) := by
      rw [hsplit, entries, List.map_map]
      refine List.forall₂_map_left_iff.2 (List.forall₂_map_right_iff.2 (List.forall₂_same.2 ?_))
      intro pair hpair
      obtain ⟨hname, halphanum⟩ := Probe.spelling_of_accepts (h.accepted _ _ (hget hpair))
      exact Entry.ofText_entryText halphanum hname pair.2
    have hunmarked : "R=N".toList ∉ split '%' (bodyText (answered tests).entries) := by
      rw [hsplit]
      intro hmem
      obtain ⟨e, he, heq⟩ := List.mem_map.1 hmem
      exact h.ne_marker he heq
    have hdescribes := Describes.answered hread hunmarked fun pair hpair =>
      h.accepted _ _ (hget (hpairs ▸ hpair))
    rwa [hpairs, ofList_toList] at hdescribes

section
variable {source content : String} {line : Nat}

/-- Different tests get their patterns without a notice. -/
theorem notices_foldl_define {before pairs : List (String × Pattern)}
    (h : ((before ++ pairs).map (·.1)).Nodup) :
    (Logged.foldl (define source line probe) (.ofList before) pairs).notices = [] := by
  induction pairs generalizing before with
  | nil => rfl
  | cons pair pairs ih =>
    have hnew := contains_ofList_eq_false h
    rw [List.append_cons] at h
    rw [Logged.foldl_cons, define]
    split
    · rw [hnew, if_neg Bool.false_ne_true, ← ofList_concat]
      exact ih h
    · rfl

/-- A body that names no test twice is read without a notice. -/
theorem notices_ofBody {es : List (String × List Char)} (hentries : WellSpelled es)
    (hdistinct : (es.map (·.1)).Nodup) :
    (ofBody source line content probe (bodyText es)).notices = [] := by
  by_cases hne : es = []
  · subst hne
    rfl
  cases hread : (es.map fun e => entryText e.1 e.2).mapM (entryOfText line) with
  | error fault =>
    unfold ofBody
    split
    · rfl
    · rw [split_bodyText hentries hne, hread]
      rfl
  | ok entries =>
    have read := mapM_entryOfText_eq_ok_iff.1 hread
    have hnames := Entry.map_fst_pairs (fun e he => (hentries e he).1) read
    have hquiet := @notices_foldl_define probe source line [] (entries.flatMap (·.pairs))
      (by rw [List.nil_append, hnames]; exact hdistinct)
    rw [← split_bodyText hentries hne] at read
    rw [ofBody_eq_ofEntries read]
    by_cases hmark : entries.any (·.isSilence)
    · rw [ofEntries, if_pos hmark]
      split <;> rfl
    · rwa [notices_ofEntries hmark]

end

end Response

/-! ## Rows -/

namespace PointRow

/-- Points in decimal are read back. -/
theorem pointsOfText?_toDigits (points : UInt32) :
    pointsOfText? (Nat.toDigits 10 points.toNat) = some points := by
  have hdigits : ∀ c ∈ Nat.toDigits 10 points.toNat, isBlank c = false := fun c hc =>
    isBlank_of_isAlphanum ((toDigits_spells (by decide) (by decide) points.toNat).2 c hc)
  have hlimit : points.toNat < limit 32 := points.toNat_lt
  rw [pointsOfText?, trim_eq_self hdigits, decimal?_toDigits hlimit, Option.map_some,
    UInt32.ofNat_toNat]

/-- What is written of a row. -/
def entries (row : PointRow) : List (String × List Char) :=
  row.toList.map fun entry => (entry.1, Nat.toDigits 10 entry.2.toNat)

variable {probe : Probe} {row : PointRow}

theorem rowLine_eq (probe : Probe) (row : PointRow) :
    PointTable.rowLine probe row = probe.name.toList ++ '(' :: (bodyText row.entries ++ [')']) := by
  simp [PointTable.rowLine, groupLine, bodyText, entries, Function.comp_def]

/-- No test is written twice. -/
theorem nodup_entries (row : PointRow) : (row.entries.map (·.1)).Nodup := by
  rw [entries, List.map_map]
  exact nodup_fst_toList row

section
variable (haccepts : ∀ test ∈ row, probe.accepts test)
include haccepts

/-- The tests that a row lists are accepted. -/
theorem accepts_of_mem_toList {entry : String × UInt32} (hentry : entry ∈ row.toList) :
    probe.accepts entry.1 := by
  have hget := Std.ExtTreeMap.mem_toList_iff_getElem?_eq_some.1 hentry
  exact haccepts _ (Std.ExtTreeMap.mem_iff_isSome_getElem?.2 (by rw [hget]; rfl))

/-- The entries of a row of tests that the probe accepts are spelled as entries are. -/
theorem wellSpelled : WellSpelled row.entries := by
  intro e he
  obtain ⟨entry, hmem, rfl⟩ := List.mem_map.1 he
  exact ⟨(Probe.spelling_of_accepts (accepts_of_mem_toList haccepts hmem)).2,
    unreserved_of_isAlphanum (toDigits_spells (by decide) (by decide) _).2⟩

/-- What is written of a row describes it, if there is a test in it. -/
theorem describes (hne : row ≠ ∅) : Describes probe (bodyText row.entries) row := by
  refine ⟨row.toList, ?_, nodup_fst_toList row, (ofList_toList row).symm⟩
  have hentries : row.entries ≠ [] := by
    simpa [entries] using mt Std.ExtTreeMap.toList_eq_nil_iff.1 hne
  rw [split_bodyText (wellSpelled haccepts) hentries, entries, List.map_map]
  refine List.forall₂_map_left_iff.2 (List.forall₂_same.2 fun entry hentry => ?_)
  have htest := accepts_of_mem_toList haccepts hentry
  exact ⟨_, rfl, not_mem_of_isAlphanum (Probe.spelling_of_accepts htest).2 (by decide), htest,
    pointsOfText?_toDigits entry.2⟩

end

end PointRow

end OsDetection
