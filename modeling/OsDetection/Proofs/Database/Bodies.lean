import Mathlib.Data.List.Nodup
import OsDetection.Database.Group
import OsDetection.Database.Row
import OsDetection.Proofs.Folds

/-!
# The bodies of group lines

What stands between the brackets of a group line, in a record and in the point table. Either is
read entry by entry; here it is said as a whole what the entries amount to, without the line they
stand on, which only faults mention. `Response.Describes` are the bodies that are accepted in a
record (`Response.outcome_ofBody_eq_ok_iff`), `PointRow.Describes` those that are accepted in the
point table (`PointRow.ofBody_eq_ok_iff`).
-/

namespace OsDetection

open OsDetection.Text

/-! ## Maps made of pairs -/

section
variable {κ α : Type} [Ord κ] [Std.TransOrd κ]

/-- The last pair is inserted last. -/
theorem ofList_concat (pairs : List (κ × α)) (pair : κ × α) :
    (.ofList (pairs ++ [pair]) : Std.ExtTreeMap κ α) =
      (.ofList pairs : Std.ExtTreeMap κ α).insert pair.1 pair.2 := by
  simp only [Std.ExtTreeMap.ofList_eq_insertMany_empty, Std.ExtTreeMap.insertMany_append]
  rfl

/-- A map lists no key twice. -/
theorem nodup_fst_toList (m : Std.ExtTreeMap κ α) : (m.toList.map (·.1)).Nodup := by
  rw [Std.ExtTreeMap.map_fst_toList_eq_keys]
  exact Std.ExtTreeMap.nodup_keys

variable [Std.LawfulEqOrd κ]

/-- A map made of pairs has for a key what the last of its pairs says. -/
theorem getElem?_ofList_iff_last {pairs : List (κ × α)} {k : κ} {a : α} :
    (.ofList pairs : Std.ExtTreeMap κ α)[k]? = some a ↔
      ∃ before after, pairs = before ++ (k, a) :: after ∧ k ∉ after.map (·.1) := by
  induction pairs using List.reverseRecOn with
  | nil => simp
  | append_singleton pairs pair ih =>
    rw [ofList_concat, Std.ExtTreeMap.getElem?_insert]
    split
    · next hkey =>
      obtain rfl : pair.1 = k := Std.LawfulEqOrd.eq_of_compare hkey
      constructor
      · intro h
        obtain rfl : pair.2 = a := Option.some.inj h
        exact ⟨pairs, [], rfl, by simp⟩
      · rintro ⟨before, after, heq, hlast⟩
        -- The pair that was added last has the key, so no other is the last one.
        cases after using List.reverseRecOn with
        | nil =>
          obtain ⟨-, hpair⟩ := List.append_singleton_inj.1 heq
          rw [hpair]
        | append_singleton after other =>
          rw [← List.cons_append, ← List.append_assoc] at heq
          obtain ⟨-, rfl⟩ := List.append_singleton_inj.1 heq
          simp at hlast
    · next hkey =>
      have hne : pair.1 ≠ k := fun h => hkey (h ▸ Std.ReflCmp.compare_self)
      rw [ih]
      constructor
      · rintro ⟨before, after, rfl, hlast⟩
        exact ⟨before, after ++ [pair], by simp, by simpa [Ne.symm hne] using hlast⟩
      · rintro ⟨before, after, heq, hlast⟩
        cases after using List.reverseRecOn with
        | nil =>
          obtain ⟨-, hpair⟩ := List.append_singleton_inj.1 heq
          exact absurd (congrArg Prod.fst hpair) hne
        | append_singleton after other =>
          rw [← List.cons_append, ← List.append_assoc] at heq
          obtain ⟨rfl, rfl⟩ := List.append_singleton_inj.1 heq
          exact ⟨before, after, rfl, fun hmem => hlast (by simp_all)⟩

/-- A map holds only what was inserted. -/
theorem mem_of_getElem?_ofList {pairs : List (κ × α)} {k : κ} {a : α}
    (h : (.ofList pairs : Std.ExtTreeMap κ α)[k]? = some a) : (k, a) ∈ pairs := by
  obtain ⟨before, after, rfl, -⟩ := getElem?_ofList_iff_last.1 h
  simp

/-- A key that comes again in no pair is not among those before its own. -/
theorem contains_ofList_eq_false {pairs rest : List (κ × α)} {pair : κ × α}
    (h : ((pairs ++ pair :: rest).map (·.1)).Nodup) :
    (.ofList pairs : Std.ExtTreeMap κ α).contains pair.1 = false := by
  rw [Bool.eq_false_iff, ne_eq, Std.ExtTreeMap.contains_eq_isSome_getElem?,
    Option.isSome_iff_exists]
  rintro ⟨a, ha⟩
  rw [List.map_append, List.nodup_append] at h
  exact h.2.2 pair.1 (List.mem_map.2 ⟨_, mem_of_getElem?_ofList ha, rfl⟩) pair.1 (by simp) rfl

/-- A map is made of the pairs that it lists. -/
theorem ofList_toList (m : Std.ExtTreeMap κ α) : (.ofList m.toList : Std.ExtTreeMap κ α) = m := by
  refine Std.ExtTreeMap.ext_getElem? fun k => Option.ext fun a => ⟨fun h => ?_, fun h => ?_⟩
  · exact Std.ExtTreeMap.mem_toList_iff_getElem?_eq_some.1 (mem_of_getElem?_ofList h)
  · exact Std.ExtTreeMap.getElem?_ofList_of_mem Std.ReflCmp.compare_self
      Std.ExtTreeMap.distinct_keys_toList (Std.ExtTreeMap.mem_toList_iff_getElem?_eq_some.2 h)

section
variable {pairs pairs' : List (κ × α)} (h : (pairs.map (·.1)).Nodup)
include h

/-- A map made of pairs with different keys has these for its entries. -/
theorem getElem?_ofList_eq_some_iff {k : κ} {a : α} :
    (.ofList pairs : Std.ExtTreeMap κ α)[k]? = some a ↔ (k, a) ∈ pairs := by
  refine ⟨mem_of_getElem?_ofList, fun hmem => ?_⟩
  refine Std.ExtTreeMap.getElem?_ofList_of_mem Std.ReflCmp.compare_self ?_ hmem
  exact (List.pairwise_map.1 h).imp fun hne heq => hne (Std.LawfulEqOrd.eq_of_compare heq)

/-- It lists them again, in its own order. -/
theorem perm_toList_ofList : (.ofList pairs : Std.ExtTreeMap κ α).toList.Perm pairs := by
  refine (List.perm_ext_iff_of_nodup (nodup_fst_toList _).of_map h.of_map).2 ?_
  rintro ⟨k, a⟩
  rw [Std.ExtTreeMap.mem_toList_iff_getElem?_eq_some, getElem?_ofList_eq_some_iff h]

/-- The order of the pairs is lost. -/
theorem ofList_eq_of_perm (hperm : pairs.Perm pairs') :
    (.ofList pairs : Std.ExtTreeMap κ α) = .ofList pairs' := by
  have h' : (pairs'.map (·.1)).Nodup := (hperm.map _).nodup_iff.1 h
  exact Std.ExtTreeMap.ext_toList
    ((perm_toList_ofList h).trans (hperm.trans (perm_toList_ofList h').symm))

end

end

/-! ## Entries -/

namespace Entry

/-- A text is a test name exactly if it is not empty and consists of letters and digits. -/
theorem nameOfText_eq_ok_iff {cs : List Char} {name : String} :
    nameOfText cs = .ok name ↔ name.toList = cs ∧ cs ≠ [] ∧ ∀ c ∈ cs, c.isAlphanum := by
  have hfind : cs.find? (!·.isAlphanum) = none ↔ ∀ c ∈ cs, c.isAlphanum := by simp
  rw [← hfind]
  unfold nameOfText
  split
  · next hnil => simp [hnil]
  · next hne =>
    cases cs.find? (!·.isAlphanum) with
    | some c => simp
    | none =>
      rw [Except.ok.injEq, ← String.toList_inj, String.toList_ofList, eq_comm]
      simp [hne]

/-- The text of a test name is the name. -/
theorem toList_of_nameOfText {cs : List Char} {name : String} (h : nameOfText cs = .ok name) :
    name.toList = cs :=
  (nameOfText_eq_ok_iff.1 h).1

/-- So the texts of names are the pieces that the names were read from. -/
theorem map_toList_of_forall₂ {pieces : List (List Char)} {names : List String}
    (h : List.Forall₂ (fun piece name => nameOfText piece = .ok name) pieces names) :
    names.map (·.toList) = pieces := by
  have htexts : List.Forall₂ (· = ·) pieces (names.map (·.toList)) :=
    List.forall₂_map_right_iff.2 (h.imp fun _ _ h => (toList_of_nameOfText h).symm)
  rw [List.forall₂_eq_eq_eq] at htexts
  exact htexts.symm

/-- What a text that is an entry consists of: the names, each spelled by a piece of the text before
the first equals sign, and the source of the pattern. -/
theorem ofText_eq_ok_iff {cs : List Char} {e : Entry} :
    ofText cs = .ok e ↔
      ∃ names, cut? '=' cs = some (names, e.pattern.source.toList) ∧
        List.Forall₂ (fun piece name => nameOfText piece = .ok name) (split '|' names) e.names := by
  unfold ofText
  cases hcut : cut? '=' cs with
  | none => simp
  | some parts =>
    obtain ⟨names, source⟩ := parts
    simp only [bind_eq_ok_iff, mapM_eq_ok_iff]
    refine ⟨fun h => ?_, fun h => ?_⟩
    · obtain ⟨ns, hns, pattern, hpattern, h⟩ := h
      cases h
      refine ⟨names, ?_, hns⟩
      cases hp : Pattern.ofText (String.ofList source) with
      | error fault => rw [hp] at hpattern; exact nomatch hpattern
      | ok p =>
        rw [hp] at hpattern
        cases hpattern
        rw [Pattern.ofText_eq_ok_iff.1 hp, String.toList_ofList]
    · obtain ⟨names', h, hns⟩ := h
      obtain ⟨rfl, rfl⟩ : names = names' ∧ source = e.pattern.source.toList := by simpa using h
      refine ⟨e.names, hns, e.pattern, ?_, rfl⟩
      rw [String.ofList_toList, Pattern.ofText_source]
      rfl

/-- An entry gives its pattern to at least one test. -/
theorem names_ne_nil {cs : List Char} {e : Entry} (h : ofText cs = .ok e) : e.names ≠ [] := by
  obtain ⟨names, -, hnames⟩ := ofText_eq_ok_iff.1 h
  intro hnil
  rw [hnil, List.forall₂_nil_right_iff] at hnames
  exact split_ne_nil _ _ hnames

/-- The text that an entry was read from is the entry in writing. -/
theorem text_eq_of_ofText {cs : List Char} {e : Entry} (h : ofText cs = .ok e) : e.text = cs := by
  obtain ⟨names, hcut, hnames⟩ := ofText_eq_ok_iff.1 h
  obtain ⟨rfl, -⟩ := cut?_eq_some_iff.1 hcut
  rw [text, map_toList_of_forall₂ hnames, intercalate_split]

/-- An entry gives notice of silence exactly if it is written `R=N`. -/
theorem isSilence_iff {cs : List Char} {e : Entry} (h : ofText cs = .ok e) :
    e.isSilence ↔ cs = "R=N".toList := by
  refine ⟨fun hs => ?_, fun he => ?_⟩
  · obtain ⟨hnames, hsource⟩ : e.names = [responsiveness] ∧ e.pattern.source = noAnswer := by
      simpa [isSilence] using hs
    rw [← text_eq_of_ofText h, text, hnames, hsource]
    rfl
  · obtain rfl := he
    obtain rfl : _ = e := Except.ok.inj h
    rfl

/-- An entry that gives the responsiveness test the pattern `N` and is not the mark of silence names
another test as well, or this one again. -/
theorem two_le_length_names {e : Entry} (h : ¬ e.isSilence) (hname : responsiveness ∈ e.names)
    (hsource : e.pattern.source = noAnswer) : 2 ≤ e.names.length := by
  by_contra hlt
  obtain ⟨name, hnames⟩ : ∃ name, e.names = [name] := by
    have hpos := List.length_pos_of_mem hname
    exact List.length_eq_one_iff.1 (by omega)
  rw [hnames, List.mem_singleton] at hname
  exact h (by simp [isSilence, hnames, hname, hsource])

end Entry

/-! ## Responses -/

namespace Response

variable {source content : String} {line : Nat} {probe : Probe}

/-- The bodies that are accepted in the group of a probe, and what they describe. -/
inductive Describes (probe : Probe) : List Char → Response Pattern → Prop
  | silent {body : List Char} (h : body = [] ∨ body = "R=N".toList) : Describes probe body silent
  | answered {body : List Char} {entries : List Entry}
    (read : List.Forall₂ (fun cs e => Entry.ofText cs = .ok e) (split '%' body) entries)
    (unmixed : "R=N".toList ∉ split '%' body)
    (accepted : ∀ pair ∈ entries.flatMap (·.pairs), probe.accepts pair.1) :
    Describes probe body (answered (.ofList (entries.flatMap (·.pairs))))

/-- The notice that a repeated test gives does not change the tests. -/
theorem outcome_define (tests : TestMap Pattern) (pair : String × Pattern) :
    (define source line probe tests pair).outcome =
      if probe.accepts pair.1 then .ok (tests.insert pair.1 pair.2)
      else .error (.unknownTest line probe pair.1) := by
  unfold define
  split
  · split <;> rfl
  · rfl

/-- Pairs are put into the map, if all their tests are accepted. -/
theorem outcome_foldl_define_eq_ok_iff {before pairs : List (String × Pattern)}
    {tests : TestMap Pattern} :
    (Logged.foldl (define source line probe) (.ofList before) pairs).outcome = .ok tests ↔
      (∀ pair ∈ pairs, probe.accepts pair.1) ∧ tests = .ofList (before ++ pairs) := by
  induction pairs generalizing before with
  | nil =>
    rw [List.append_nil]
    exact ⟨fun h => ⟨nofun, (Except.ok.inj h).symm⟩, fun h => h.2 ▸ rfl⟩
  | cons pair pairs ih =>
    rw [Logged.foldl_cons, Logged.outcome_bind, outcome_define]
    split
    · next haccepts => rw [ok_bind, ← ofList_concat, ih]; simp [haccepts]
    · next haccepts => simp [haccepts]

/-- The first test that the probe does not accept stops that. -/
theorem outcome_foldl_define_eq_error_iff {tests : TestMap Pattern}
    {pairs : List (String × Pattern)} {fault : Fault} :
    (Logged.foldl (define source line probe) tests pairs).outcome = .error fault ↔
      ∃ test, (pairs.map (·.1)).find? (!probe.accepts ·) = some test ∧
        fault = .unknownTest line probe test := by
  induction pairs generalizing tests with
  | nil => simp
  | cons pair pairs ih =>
    rw [Logged.foldl_cons, Logged.outcome_bind, outcome_define]
    split
    · next haccepts =>
      rw [ok_bind, ih]
      simp [haccepts]
    · next haccepts => simp [haccepts, eq_comm]

/-- Entries are read alike on every line. -/
theorem mapM_entryOfText_eq_ok_iff {pieces : List (List Char)} {entries : List Entry} :
    pieces.mapM (entryOfText line) = .ok entries ↔
      List.Forall₂ (fun cs e => Entry.ofText cs = .ok e) pieces entries := by
  have entry_iff (cs : List Char) (e : Entry) :
      entryOfText line cs = .ok e ↔ Entry.ofText cs = .ok e := by
    unfold entryOfText
    cases Entry.ofText cs <;> simp [Except.mapError]
  simp only [mapM_eq_ok_iff, entry_iff]

section
variable {body : List Char} {entries : List Entry}

/-- A body whose pieces are entries is read entry by entry. -/
theorem ofBody_eq_ofEntries
    (read : List.Forall₂ (fun cs e => Entry.ofText cs = .ok e) (split '%' body) entries) :
    ofBody source line content probe body = ofEntries source line content probe entries := by
  have hne : body ≠ [] := by
    rintro rfl
    obtain ⟨e, -, he, -⟩ := List.forall₂_cons_left_iff.1 read
    cases he
  have hentries := (@mapM_entryOfText_eq_ok_iff line _ _).2 read
  rw [ofBody, if_neg hne, hentries]
  ext1
  · rw [Logged.notices_bind_of_ok (Logged.outcome_ofExcept _), Logged.notices_ofExcept,
      List.nil_append]
  · rw [Logged.outcome_bind, Logged.outcome_ofExcept, ok_bind]

/-- Entries are accepted if their only one is the mark of silence, or if it is not among them and
all tests are accepted. -/
theorem outcome_ofEntries_eq_ok_iff {r : Response Pattern} :
    (ofEntries source line content probe entries).outcome = .ok r ↔
      (entries.any (·.isSilence) ∧ entries.length = 1 ∧ r = .silent) ∨
        ¬ entries.any (·.isSilence) ∧ (∀ pair ∈ entries.flatMap (·.pairs), probe.accepts pair.1) ∧
          r = .answered (.ofList (entries.flatMap (·.pairs))) := by
  unfold ofEntries
  split
  · next hmark =>
    split
    · next hlength =>
      rw [Logged.outcome_pure, Except.ok.injEq, eq_comm]
      simp [hmark, hlength]
    · next hlength => simp [hmark, hlength]
  · next hmark =>
    have hfold := @outcome_foldl_define_eq_ok_iff source line probe [] (entries.flatMap (·.pairs))
    rw [Std.ExtTreeMap.ofList_nil, List.nil_append] at hfold
    rw [Logged.outcome_bind_eq_ok_iff]
    simp only [hfold, Logged.outcome_pure, Except.ok.injEq]
    constructor
    · rintro ⟨tests, ⟨accepted, rfl⟩, rfl⟩
      exact .inr ⟨hmark, accepted, rfl⟩
    · rintro (⟨hmark', -⟩ | ⟨-, accepted, rfl⟩)
      · exact absurd hmark' hmark
      · exact ⟨_, ⟨accepted, rfl⟩, rfl⟩

/-- They are refused if the mark is beside others, or for the first test that is not accepted. -/
theorem outcome_ofEntries_eq_error_iff {fault : Fault} :
    (ofEntries source line content probe entries).outcome = .error fault ↔
      (entries.any (·.isSilence) ∧ entries.length ≠ 1 ∧ fault = .malformedLine line content) ∨
        ¬ entries.any (·.isSilence) ∧ ∃ test,
          ((entries.flatMap (·.pairs)).map (·.1)).find? (!probe.accepts ·) = some test ∧
            fault = .unknownTest line probe test := by
  unfold ofEntries
  split
  · next hmark =>
    split
    · next hlength => simp [hlength, hmark]
    · next hlength =>
      rw [Logged.outcome_fail, Except.error.injEq, eq_comm]
      simp [hmark, hlength]
  · next hmark =>
    rw [Logged.outcome_bind_eq_error_iff, outcome_foldl_define_eq_error_iff]
    simp [hmark]

/-- All notices are given while the pairs are read. -/
theorem notices_ofEntries (h : ¬ entries.any (·.isSilence)) :
    (ofEntries source line content probe entries).notices =
      (Logged.foldl (define source line probe) ∅ (entries.flatMap (·.pairs))).notices := by
  rw [ofEntries, if_neg h]
  cases hfold : (Logged.foldl (define source line probe) ∅ (entries.flatMap (·.pairs))).outcome with
  | error fault => rw [Logged.notices_bind_of_error hfold]
  | ok tests => rw [Logged.notices_bind_of_ok hfold, Logged.notices_pure, List.append_nil]

end

/-- One of the entries gives notice of silence exactly if one of the pieces of the body is
written so. -/
theorem any_isSilence_iff {pieces : List (List Char)} {entries : List Entry}
    (h : List.Forall₂ (fun cs e => Entry.ofText cs = .ok e) pieces entries) :
    entries.any (·.isSilence) ↔ "R=N".toList ∈ pieces := by
  induction h with
  | nil => simp
  | cons he _ ih =>
    rw [List.any_cons, Bool.or_eq_true, Entry.isSilence_iff he, ih, List.mem_cons, eq_comm]

/-- A body whose only entry gives notice of silence is written so. -/
theorem eq_mark_of_any_isSilence {body : List Char} {entries : List Entry}
    (h : List.Forall₂ (fun cs e => Entry.ofText cs = .ok e) (split '%' body) entries)
    (hlength : entries.length = 1) (hsilence : entries.any (·.isSilence)) :
    body = "R=N".toList := by
  obtain ⟨piece, hpiece⟩ := List.length_eq_one_iff.1 (h.length_eq.trans hlength)
  have hmem := (any_isSilence_iff h).1 hsilence
  have hbody := intercalate_split '%' body
  rw [hpiece, List.mem_singleton] at hmem
  rw [hpiece, ← hmem] at hbody
  simpa using hbody.symm

/-- A body is accepted exactly if it describes a response, whatever the line. -/
theorem outcome_ofBody_eq_ok_iff {body : List Char} {r : Response Pattern} :
    (ofBody source line content probe body).outcome = .ok r ↔ Describes probe body r := by
  refine ⟨fun h => ?_, fun h => ?_⟩
  · unfold ofBody at h
    split at h
    · next hnil =>
      cases h
      exact .silent (.inl hnil)
    · obtain ⟨entries, hread, h⟩ := Logged.outcome_bind_eq_ok_iff.1 h
      have read := mapM_entryOfText_eq_ok_iff.1 hread
      have hmark := any_isSilence_iff read
      rcases outcome_ofEntries_eq_ok_iff.1 h with
        ⟨hsilence, hlength, rfl⟩ | ⟨hunmarked, accepted, rfl⟩
      · exact .silent (.inr (eq_mark_of_any_isSilence read hlength hsilence))
      · exact .answered read (fun hmem => hunmarked (hmark.2 hmem)) accepted
  · cases h with
    | silent h =>
      rcases h with rfl | rfl
      · rfl
      · rfl
    | @answered entries read unmixed accepted =>
      have hunmarked : ¬ entries.any (·.isSilence) := fun hany =>
        unmixed ((any_isSilence_iff read).1 hany)
      rw [ofBody_eq_ofEntries read]
      exact outcome_ofEntries_eq_ok_iff.2 (.inr ⟨hunmarked, accepted, rfl⟩)

/-- A body describes one response only. -/
theorem Describes.unique {body : List Char} {r r' : Response Pattern}
    (h : Describes probe body r) (h' : Describes probe body r') : r = r' :=
  Except.ok.inj ((@outcome_ofBody_eq_ok_iff "" "" 0 probe body r).2 h |>.symm.trans
    (outcome_ofBody_eq_ok_iff.2 h'))

end Response

/-! ## Rows -/

namespace PointRow

variable {content : String} {line : Nat} {probe : Probe}

/-- Whether an entry gives a test of a probe its points. -/
def Gives (probe : Probe) (entry : List Char) (pair : String × UInt32) : Prop :=
  ∃ value, entry = pair.1.toList ++ '=' :: value ∧ '=' ∉ pair.1.toList ∧
    probe.accepts pair.1 ∧ pointsOfText? value = some pair.2

/-- The bodies that are accepted in the row of a probe, and what they describe: every entry gives
another test its points. -/
def Describes (probe : Probe) (body : List Char) (row : PointRow) : Prop :=
  ∃ pairs, List.Forall₂ (Gives probe) (split '%' body) pairs ∧ (pairs.map (·.1)).Nodup ∧
    row = .ofList pairs

/-- An entry is added exactly if it gives a new test its points. -/
theorem addEntry_eq_ok_iff {row row' : PointRow} {entry : List Char} :
    addEntry line content probe row entry = .ok row' ↔
      ∃ pair, Gives probe entry pair ∧ ¬ row.contains pair.1 ∧ row' = row.insert pair.1 pair.2 := by
  refine ⟨fun h => ?_, fun h => ?_⟩
  · unfold addEntry at h
    split at h
    · exact nomatch h
    · next name value hcut =>
      obtain ⟨rfl, hname⟩ := cut?_eq_some_iff.1 hcut
      dsimp only at h
      split at h
      · next haccepts =>
        split at h
        · exact nomatch h
        · next points hpoints =>
          split at h
          · exact nomatch h
          · next hnew =>
            cases h
            exact ⟨(String.ofList name, points), ⟨value, by simp, by simpa, haccepts, hpoints⟩,
              hnew, rfl⟩
      · exact nomatch h
  · obtain ⟨⟨test, points⟩, ⟨value, rfl, hname, haccepts, hpoints⟩, hnew, rfl⟩ := h
    have hcut : cut? '=' (test.toList ++ '=' :: value) = some (test.toList, value) :=
      cut?_eq_some_iff.2 ⟨rfl, hname⟩
    dsimp only at *
    simp only [addEntry, hcut, String.ofList_toList]
    rw [if_pos haccepts]
    simp only [hpoints]
    rw [if_neg hnew]

/-- Entries are added exactly if each gives another test its points. -/
theorem foldlM_addEntry_eq_ok_iff {before : List (String × UInt32)} {entries : List (List Char)}
    {row : PointRow} (h : (before.map (·.1)).Nodup) :
    entries.foldlM (addEntry line content probe) (.ofList before) = .ok row ↔
      ∃ pairs, List.Forall₂ (Gives probe) entries pairs ∧ ((before ++ pairs).map (·.1)).Nodup ∧
        row = .ofList (before ++ pairs) := by
  induction entries generalizing before with
  | nil =>
    refine ⟨?_, fun h => ?_⟩
    · exact fun hrow => ⟨[], .nil, by simpa using h, by simpa using (Except.ok.inj hrow).symm⟩
    · obtain ⟨pairs, hpairs, -, rfl⟩ := h
      cases hpairs
      rw [List.append_nil]
      rfl
  | cons entry entries ih =>
    have hnew (pair : String × UInt32) :
        ¬ (.ofList before : PointRow).contains pair.1 ↔ ((before ++ [pair]).map (·.1)).Nodup := by
      rw [Std.ExtTreeMap.contains_ofList, List.contains_iff_mem, List.map_append,
        List.map_singleton, ← List.concat_eq_append, List.nodup_concat, and_iff_left h]
    rw [List.foldlM_cons, bind_eq_ok_iff]
    refine ⟨fun h => ?_, fun h => ?_⟩
    · obtain ⟨row', hentry, hentries⟩ := h
      obtain ⟨pair, hgives, hpair, rfl⟩ := addEntry_eq_ok_iff.1 hentry
      rw [← ofList_concat, ih ((hnew pair).1 hpair)] at hentries
      obtain ⟨pairs, hpairs, hnodup, rfl⟩ := hentries
      refine ⟨pair :: pairs, .cons hgives hpairs, ?_, ?_⟩
      · simpa using hnodup
      · simp
    · obtain ⟨_, hpairs, hnodup, hrow⟩ := h
      cases hpairs with
      | @cons _ pair _ pairs hgives hpairs =>
        rw [List.append_cons] at hnodup hrow
        have hpair : ((before ++ [pair]).map (·.1)).Nodup := by
          rw [List.map_append] at hnodup
          exact (List.nodup_append.1 hnodup).1
        refine ⟨_, addEntry_eq_ok_iff.2 ⟨pair, hgives, (hnew pair).2 hpair, rfl⟩, ?_⟩
        rw [← ofList_concat]
        exact (ih hpair).2 ⟨pairs, hpairs, hnodup, hrow⟩

/-- A body is accepted exactly if it describes a row, whatever the line. -/
theorem ofBody_eq_ok_iff {body : List Char} {row : PointRow} :
    ofBody line content probe body = .ok row ↔ Describes probe body row :=
  @foldlM_addEntry_eq_ok_iff content line probe [] _ _ List.nodup_nil

end PointRow

end OsDetection
