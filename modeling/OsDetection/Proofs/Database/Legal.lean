import OsDetection.Proofs.Database.Moves

/-!
# What holds of every database

The invariants of databases, whatever their text. Each line that names a fingerprint gives one, in
order; a fingerprint is named and has a response for every probe that counts, an answered probe has
patterns for tests of its own, and so has the point table. The invariant of reading
(`Database.Reading.Legal`) says the same of what is known after some of the lines, the record being
read included, and each rule of `Database.Reading.Moves` keeps it.
-/

namespace OsDetection

open OsDetection.Text

/-! ## Legal values -/

/-- What a response to a probe may be. -/
structure Response.Legal (probe : Probe) (r : Response Pattern) : Prop where
  answered : ∀ tests, r = .answered tests → tests ≠ ∅
  accepted : ∀ test pattern, r.get? test = some pattern → probe.accepts test
  /-- The alternatives of a pattern are those of its source. -/
  compiled : ∀ test pattern, r.get? test = some pattern →
    Pattern.ofText pattern.source = .ok pattern

/-- What a fingerprint may be. -/
structure Fingerprint.Legal (f : Fingerprint) : Prop where
  named : f.name ≠ ""
  complete : ∀ p, p ≠ .scan → (f.response? p).isSome
  responses : ∀ p r, f.response? p = some r → r.Legal p

/-- What a record may be before it is closed. -/
structure Draft.Legal (d : Draft) : Prop where
  named : ∀ name, d.name = some name → name ≠ ""
  responses : ∀ p (r : Response Pattern), d.responses[p]? = some r → r.Legal p

/-- What a point table may be. -/
structure PointTable.Legal (t : PointTable) : Prop where
  informational : t.row? .scan = none
  nonempty : ∀ p row, t.row? p = some row → row ≠ ∅
  accepted : ∀ p row test, t.row? p = some row → test ∈ row → p.accepts test

/-- What a body describes may be a response. -/
theorem Response.Describes.legal {probe : Probe} {body : List Char} {r : Response Pattern}
    (h : Response.Describes probe body r) : r.Legal probe := by
  cases h with
  | silent => exact ⟨nofun, by simp [get?, tests], by simp [get?, tests]⟩
  | @answered entries read _ accepted =>
    refine ⟨?_, fun test pattern h => ?_, fun _ pattern _ => pattern.ofText_source⟩
    · -- The first entry names a test at least.
      obtain ⟨cs, rest, hsplit⟩ := List.exists_cons_of_ne_nil (split_ne_nil '%' body)
      rw [hsplit] at read
      obtain ⟨e, es, he, -, rfl⟩ := List.forall₂_cons_left_iff.1 read
      rintro tests h rfl
      have hpairs := Std.ExtTreeMap.ofList_eq_empty_iff.1 (Response.answered.inj h)
      rw [List.flatMap_cons, List.append_eq_nil_iff] at hpairs
      exact Entry.names_ne_nil he (List.map_eq_nil_iff.1 hpairs.1)
    · exact accepted _ (mem_of_getElem?_ofList h)

/-- What a body describes is a row of tests that its probe accepts. -/
theorem PointRow.Describes.legal {probe : Probe} {body : List Char} {row : PointRow}
    (h : PointRow.Describes probe body row) :
    row ≠ ∅ ∧ ∀ test, test ∈ row → probe.accepts test := by
  obtain ⟨pairs, hpairs, -, rfl⟩ := h
  refine ⟨fun hempty => ?_, ?_⟩
  · rw [Std.ExtTreeMap.ofList_eq_empty_iff.1 hempty, List.forall₂_nil_right_iff] at hpairs
    exact split_ne_nil _ _ hpairs
  · intro test htest
    obtain ⟨pair, hpair, rfl⟩ : ∃ pair ∈ pairs, pair.1 = test := by
      simpa [Std.ExtTreeMap.mem_ofList] using htest
    obtain ⟨entry, -, value, -, -, haccepts, -⟩ := exists_mem_of_forall₂ hpairs hpair
    exact haccepts

/-- There is nothing wrong with the table without a row. -/
theorem PointTable.legal_empty : PointTable.empty.Legal :=
  ⟨row?_empty _, by simp, by simp⟩

/-- A table with another row stays legal. -/
theorem PointTable.Legal.adds {t t' : PointTable} {cs : List Char} (h : t.Legal)
    (hadds : t.Adds cs t') : t'.Legal := by
  cases hadds with
  | @row _ probe body row _ _ scored _ describes =>
    obtain ⟨hne, haccepted⟩ := describes.legal
    refine ⟨?_, fun p row' hrow => ?_, fun p row' test hrow htest => ?_⟩
    · rw [row?_insert, if_neg scored]
      exact h.informational
    · rw [row?_insert] at hrow
      split at hrow
      · cases hrow
        exact hne
      · exact h.nonempty p row' hrow
    · rw [row?_insert] at hrow
      split at hrow
      · next hp =>
        cases hrow
        exact hp ▸ haccepted test htest
      · exact h.accepted p row' test hrow htest

/-! ## The lines that name fingerprints -/

namespace Database

/-- The numbers and names given by the lines of a text that name a fingerprint. -/
def titles (text : String) : List (Nat × String) :=
  (numberedLines 1 text).filterMap title?

/-- The lines that name fingerprints are listed in order. -/
theorem pairwise_titles (text : String) : ((titles text).map (·.1)).Pairwise (· < ·) := by
  rw [List.pairwise_map]
  refine (pairwise_numberedLines 1 text).filterMap title? ?_
  rintro ⟨cs, n⟩ ⟨cs', n'⟩ hlt _ htitle _ htitle'
  obtain ⟨_, -, rfl⟩ := Option.map_eq_some_iff.1 htitle
  obtain ⟨_, -, rfl⟩ := Option.map_eq_some_iff.1 htitle'
  exact hlt

/-! ## The invariant of reading -/

/-- What is known of a database after some of its lines, numbered and without final blanks. -/
structure Reading.Legal (before : List (List Char × Nat)) (r : Reading) : Prop where
  titles : before.filterMap title? =
    r.fingerprints.toList.map (fun f => (f.line, f.name)) ++ r.draft.toList.flatMap (·.titles)
  fingerprints : ∀ f ∈ r.fingerprints.toList, f.Legal
  draft : ∀ d, r.draft = some d → d.Legal
  points : ∀ t, r.points = some t → t.Legal
  table : ∀ t, r.table = some t → t.Legal

/-- A record that is about to get its first line is legal, too. -/
theorem Reading.Legal.draftAt {before : List (List Char × Nat)} {r : Reading}
    (h : r.Legal before) (line : Nat) : (r.draftAt line).Legal := by
  unfold Reading.draftAt
  cases hd : r.draft with
  | none => exact ⟨nofun, by simp [Draft.start]⟩
  | some d => exact h.draft d hd

end Database

/-- A closed record is a legal fingerprint, and keeps its line and name. -/
theorem Draft.Legal.close {d : Draft} {f : Fingerprint} (h : d.Legal) (hclose : d.close = .ok f) :
    f.Legal ∧ d.titles = [(f.line, f.name)] := by
  obtain ⟨name, hname, rfl, hcomplete⟩ := close_eq_ok_iff.1 hclose
  refine ⟨⟨h.named name hname, fun p hp => ?_, h.responses⟩, by simp [titles, hname]⟩
  rw [Fingerprint.response?, ← Std.ExtTreeMap.contains_eq_isSome_getElem?]
  exact hcomplete p hp

/-- A record with another line stays legal; only the line that names it adds a title. -/
theorem Draft.Legal.adds {d d' : Draft} {cs : List Char} {n : Nat} (h : d.Legal)
    (hcs : trimEnd cs = cs) (hadds : d.Adds n cs d') :
    d'.Legal ∧ d'.titles = d.titles ++ (Database.title? (cs, n)).toList := by
  cases hadds with
  | title text unnamed =>
    have hnamed : String.ofList (trim text) ≠ "" := fun hempty =>
      trim_ne_nil_of_trimEnd hcs (by simpa using congrArg String.toList hempty)
    refine ⟨⟨fun name hname => Option.some.inj hname ▸ hnamed, h.responses⟩, ?_⟩
    rw [Database.title?_title]
    simp [titles, unnamed]
  | classes text =>
    rw [Database.title?_eq_none (.classes text) nofun]
    exact ⟨⟨h.named, h.responses⟩, by simp [titles]⟩
  | cpe text =>
    rw [Database.title?_eq_none (.cpe text) nofun]
    exact ⟨⟨h.named, h.responses⟩, by simp [titles]⟩
  | @group _ probe body response opened closed new describes =>
    rw [Database.title?_eq_none (.ofProbe probe opened closed) nofun]
    refine ⟨⟨h.named, fun p r hr => ?_⟩, by simp [titles]⟩
    rw [Std.ExtTreeMap.getElem?_insert] at hr
    split at hr
    · next hp =>
      obtain rfl : probe = p := by simpa using hp
      cases hr
      exact describes.legal
    · exact h.responses p r hr

namespace Database

namespace Reading

variable {before : List (List Char × Nat)} {r r' : Reading}

/-- Nothing that was read is against the invariant. -/
theorem legal_start : Legal [] .start :=
  ⟨rfl, nofun, nofun, nofun, nofun⟩

/-- A line that names no fingerprint does not matter to what was read before it. -/
theorem Legal.skip (h : r.Legal before) {line : List Char × Nat} (hline : title? line = none) :
    r.Legal (before ++ [line]) :=
  ⟨by simpa [hline] using h.titles, h.fingerprints, h.draft, h.points, h.table⟩

/-- Every rule keeps the invariant. -/
theorem Legal.moves {cs : List Char} {n : Nat} (h : r.Legal before) (hcs : trimEnd cs = cs)
    (hmoves : r.Moves n cs r') : r'.Legal (before ++ [(cs, n)]) := by
  cases hmoves with
  | comment text => exact h.skip (title?_eq_none (.comment text) nofun)
  | heading =>
    obtain ⟨titles, fingerprints, draft, points, -⟩ :=
      h.skip (@title?_eq_none _ n _ .pointTable nofun)
    refine ⟨titles, fingerprints, draft, points, fun t ht => ?_⟩
    cases ht
    exact PointTable.legal_empty
  | @row _ _ table table' inside adds =>
    have hnone : title? (cs, n) = none := by
      cases adds with
      | @row _ probe _ _ opened closed =>
        exact title?_eq_none (.ofProbe probe opened closed) nofun
    obtain ⟨titles, fingerprints, draft, points, htable⟩ := h.skip hnone
    refine ⟨titles, fingerprints, draft, points, fun t ht => ?_⟩
    cases ht
    exact (htable table inside).adds adds
  | @tableEnd _ table inside =>
    obtain ⟨titles, fingerprints, draft, -, htable⟩ := h.skip (@title?_eq_none _ n _ .blank nofun)
    refine ⟨titles, fingerprints, draft, fun t ht => ?_, nofun⟩
    cases ht
    exact htable table inside
  | idle => exact h.skip (@title?_eq_none _ n _ .blank nofun)
  | @close _ d f outside present closes =>
    obtain ⟨titles, fingerprints, draft, points, table⟩ :=
      h.skip (@title?_eq_none _ n _ .blank nofun)
    obtain ⟨hlegal, htitle⟩ := (draft d present).close closes
    refine ⟨?_, fun g hg => ?_, nofun, points, table⟩
    · rw [titles, present]
      simp [htitle]
    · rw [Array.toList_push, List.mem_append, List.mem_singleton] at hg
      rcases hg with hg | rfl
      · exact fingerprints g hg
      · exact hlegal
  | @extend _ _ d' outside adds =>
    obtain ⟨hlegal, htitle⟩ := (h.draftAt n).adds hcs adds
    refine ⟨?_, h.fingerprints, fun d hd => ?_, h.points, h.table⟩
    · have hdraft : (r.draftAt n).titles = r.draft.toList.flatMap (·.titles) := by
        unfold Reading.draftAt
        cases r.draft <;> simp [Draft.titles, Draft.start]
      rw [filterMap_concat, h.titles, List.append_assoc]
      simp only [Option.toList_some, List.flatMap_singleton, htitle, hdraft]
    · cases hd
      exact hlegal

/-- The invariant holds after lines if it holds before them. -/
theorem Legal.runs {ls : List (List Char × Nat)} (h : r.Legal before)
    (hls : ∀ line ∈ ls, trimEnd line.1 = line.1) (hruns : Runs ls r r') :
    r'.Legal (before ++ ls) := by
  induction hruns generalizing before with
  | nil => simpa using h
  | cons moves _ ih =>
    rw [List.append_cons]
    exact ih (h.moves (hls _ (by simp)) moves) fun line hline => hls line (by simp [hline])

end Reading

/-! ## Databases -/

/-- An accepted text ends in a legal reading. The end adds no line, but acts as a blank one. -/
theorem exists_legal_of_ofText {source text : String} {d : Database}
    (h : (ofText source text).outcome = .ok d) :
    ∃ (r : Reading) (n : Nat), r.Legal (numberedLines 1 text ++ [([], n)]) ∧ r.draft = none ∧
      r.points = some d.points ∧ r.fingerprints.toList = d.fingerprints := by
  obtain ⟨r, hruns, htable, r', hmoves, hpoints, hfingerprints⟩ := outcome_ofText_eq_ok_iff.1 h
  have htrimmed : ∀ line ∈ numberedLines 1 text, trimEnd line.1 = line.1 := by
    simp only [numberedLines, List.mem_map]
    rintro _ ⟨line, -, rfl⟩
    exact trimEnd_trimEnd line.1
  exact ⟨r', _, (Reading.legal_start.runs htrimmed hruns).moves trimEnd_nil hmoves,
    hmoves.draft_eq_none htable, hpoints, hfingerprints⟩

/-- The point table of an accepted text is legal. -/
theorem legal_points_of_ofText {source text : String} {d : Database}
    (h : (ofText source text).outcome = .ok d) : d.points.Legal := by
  obtain ⟨r, n, hlegal, -, hpoints, -⟩ := exists_legal_of_ofText h
  exact hlegal.points _ hpoints

/-- A database has a fingerprint for each line that names one, in order, with its number and
name. -/
theorem titles_of_ofText {source text : String} {d : Database}
    (h : (ofText source text).outcome = .ok d) :
    d.fingerprints.map (fun f => (f.line, f.name)) = titles text := by
  obtain ⟨r, n, hlegal, hdraft, -, hfingerprints⟩ := exists_legal_of_ofText h
  have h := hlegal.titles
  rw [hdraft, filterMap_concat, title?_eq_none .blank nofun] at h
  simpa [titles, hfingerprints] using h.symm

/-- A database has a fingerprint for each line that names one, in order, with its number and name;
the numbers increase, every fingerprint is legal, and so is the point table. -/
theorem ofText_legal {source text : String} {d : Database}
    (h : (ofText source text).outcome = .ok d) :
    d.fingerprints.map (fun f => (f.line, f.name)) = titles text ∧
      (d.fingerprints.map (·.line)).Pairwise (· < ·) ∧
      (∀ f ∈ d.fingerprints, f.Legal) ∧ d.points.Legal := by
  obtain ⟨r, n, hlegal, -, -, hfingerprints⟩ := exists_legal_of_ofText h
  have htitles := titles_of_ofText h
  refine ⟨htitles, ?_, fun f hf => hlegal.fingerprints f (hfingerprints ▸ hf),
    legal_points_of_ofText h⟩
  rw [show d.fingerprints.map (·.line) = (titles text).map (·.1) by rw [← htitles]; simp]
  exact pairwise_titles text

/-- The fourth line names the only fingerprint, which ends with the text. -/
theorem ofText_legal_single_record :
    ∃ d, (ofText "" "MatchPoints\nT1(R=30%DF=20)\n\nFingerprint box \nSEQ()\nOPS()\nWIN(W1|W2=0)
ECN()\nT1(R=Y%DF=N)\n# silent\nT2()\nT3()\nT4()\nT5()\nT6()\nT7()\nU1()\nIE(R=N)").outcome = .ok d ∧
      d.fingerprints.map (fun f => (f.line, f.name)) = [(4, "box")] ∧
      ∀ f ∈ d.fingerprints, f.Legal := by
  refine (exists_eq_ok_of_isOk ?_).imp fun d hd => ⟨hd, ?_⟩
  · decide +kernel
  · obtain ⟨titles, -, legal, -⟩ := ofText_legal hd
    exact ⟨titles.trans (by decide +kernel), legal⟩

end Database

end OsDetection
