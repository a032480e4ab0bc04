import OsDetection.Proofs.Database.TablePosition
import OsDetection.Proofs.Informational
import OsDetection.Proofs.Points
import OsDetection.Proofs.Query.Views

/-!
# Groups that describe the scan

A group that describes the scan may stand in a record of a database and in a query. Reading a text
without these lines keeps up with reading all of it (`Database.Reading.Mirrors`): such a line
changes nothing that the other reading has to follow, and every other line does the same to both.
Texts that differ in such lines only give the same database, but for the scan and the numbers of
lines (`Database.same_of_linesWithoutScan`). In a query the other groups report all that is evidence
(`Query.evidence_observations_ofGroups`). With what holds of scores, the scan is informational
wherever it is described (`scan_is_informational`).
-/

namespace OsDetection

open OsDetection.Text

/-! ## Lines -/

/-- Whether a line is a group that describes the scan itself. -/
def Line.isScanGroup (cs : List Char) : Bool :=
  match ofText cs with
  | group name _ => name = Probe.scan.name.toList
  | _ => false

/-- A line that is no group describes nothing. -/
theorem Line.Says.isScanGroup_eq_false {cs : List Char} {line : Line} (h : Says cs line)
    (hline : ∀ name body, line ≠ .group name body) : isScanGroup cs = false := by
  unfold isScanGroup
  rw [h.ofText_eq]
  split
  · next name body => exact absurd rfl (hline name body)
  · rfl

/-- The group of a probe describes the scan only if the probe does. -/
theorem Line.isScanGroup_ofProbe {probe : Probe} {body : List Char} (opened : '(' ∉ body)
    (closed : ')' ∉ body) :
    isScanGroup (probe.name.toList ++ '(' :: (body ++ [')'])) ↔ probe = .scan := by
  have hname : probe.name.toList = Probe.scan.name.toList ↔ probe = .scan := by
    cases probe <;> decide
  rw [isScanGroup, (Says.ofProbe probe opened closed).ofText_eq, decide_eq_true_eq, hname]

/-! ## Records -/

/-- Responses that agree but for the scan are the same without it. -/
theorem erase_scan_eq {responses responses' : ProbeMap (Response Pattern)}
    (h : ∀ p : Probe, p ≠ .scan → responses'[p]? = responses[p]?) :
    responses'.erase .scan = responses.erase .scan := by
  refine Std.ExtTreeMap.ext_getElem? fun p => ?_
  rw [Std.ExtTreeMap.getElem?_erase, Std.ExtTreeMap.getElem?_erase]
  split
  · rfl
  · next hp => exact h p fun hscan => hp (by rw [hscan]; exact Std.ReflCmp.compare_self)

namespace Draft

/-- Two records that say the same but for the scan, on whichever lines. -/
structure Mirrors (d e : Draft) : Prop where
  name : e.name = d.name
  classes : e.classes = d.classes
  cpe : e.cpe = d.cpe
  responses : ∀ p : Probe, p ≠ .scan → e.responses[p]? = d.responses[p]?

variable {d d' e : Draft} {cs : List Char}

theorem Mirrors.contains_iff (h : d.Mirrors e) {p : Probe} (hp : p ≠ .scan) :
    e.responses.contains p ↔ d.responses.contains p := by
  rw [Std.ExtTreeMap.contains_eq_isSome_getElem?, Std.ExtTreeMap.contains_eq_isSome_getElem?,
    h.responses p hp]

/-- A response that is given in both is the same in both. -/
theorem Mirrors.insert (h : d.Mirrors e) (probe : Probe) (response : Response Pattern) :
    Mirrors { d with responses := d.responses.insert probe response }
      { e with responses := e.responses.insert probe response } where
  name := h.name
  classes := h.classes
  cpe := h.cpe
  responses p hp := by
    simp only [Std.ExtTreeMap.getElem?_insert, h.responses p hp]

/-- A description of the scan makes no difference. -/
theorem Mirrors.insert_scan (h : d.Mirrors e) (response : Response Pattern) :
    Mirrors { d with responses := d.responses.insert .scan response } e where
  name := h.name
  classes := h.classes
  cpe := h.cpe
  responses p hp := by
    have hne : compare Probe.scan p ≠ .eq := fun heq =>
      hp (Std.LawfulEqOrd.eq_of_compare heq).symm
    rw [h.responses p hp, Std.ExtTreeMap.getElem?_insert, if_neg hne]

/-- A line adds to one record what it adds to the other. -/
theorem Mirrors.adds (h : d.Mirrors e) {n : Nat} (hadds : Adds n cs d d')
    (hcs : Line.isScanGroup cs = false) (k : Nat) : ∃ e', Adds k cs e e' ∧ d'.Mirrors e' := by
  cases hadds with
  | title text unnamed =>
    exact ⟨_, .title text (h.name.trans unnamed), rfl, h.classes, h.cpe, h.responses⟩
  | classes text => exact ⟨_, .classes text e, h.name, rfl, h.cpe, h.responses⟩
  | cpe text => exact ⟨_, .cpe text e, h.name, h.classes, rfl, h.responses⟩
  | @group _ probe _ response opened closed new describes =>
    have hprobe : probe ≠ .scan := by
      intro hscan
      rw [(Line.isScanGroup_ofProbe opened closed).2 hscan] at hcs
      cases hcs
    have hnew : ¬ e.responses.contains probe := mt (h.contains_iff hprobe).1 new
    exact ⟨_, .group opened closed hnew describes, h.insert probe response⟩

/-- Records that mirror each other are closed alike. -/
theorem Mirrors.close (h : d.Mirrors e) {f : Fingerprint} (hclose : d.close = .ok f) :
    ∃ f', e.close = .ok f' ∧ f'.unnumbered.withoutScan = f.unnumbered.withoutScan := by
  obtain ⟨name, hname, rfl, hcomplete⟩ := close_eq_ok_iff.1 hclose
  refine ⟨_, close_eq_ok_iff.2 ⟨name, h.name.trans hname, rfl, ?_⟩, ?_⟩
  · exact fun p hp => (h.contains_iff hp).2 (hcomplete p hp)
  · simp only [Fingerprint.unnumbered, Fingerprint.withoutScan, h.classes, h.cpe,
      erase_scan_eq h.responses]

end Draft

/-! ## Readings -/

namespace Database

namespace Reading

/-- Two readings that came to the same but for the scan and the numbers of lines. A record that only
describes the scan so far may be missing in the second. -/
structure Mirrors (r s : Reading) : Prop where
  fingerprints : s.fingerprints.toList.map (·.unnumbered.withoutScan) =
    r.fingerprints.toList.map (·.unnumbered.withoutScan)
  points : s.points = r.points
  table : s.table = r.table
  absent : r.draft = none → s.draft = none
  draft : ∀ n k, (r.draftAt n).Mirrors (s.draftAt k)

theorem mirrors_start : start.Mirrors start where
  fingerprints := rfl
  points := rfl
  table := rfl
  absent := id
  draft _ _ := ⟨rfl, rfl, rfl, fun _ _ => rfl⟩

variable {r r' s : Reading} {cs : List Char} {n : Nat}

/-- A group that describes the scan opens a record or extends it, and does nothing else. -/
theorem Moves.of_isScanGroup (h : Moves n cs r r') (hcs : Line.isScanGroup cs) :
    ∃ response, r' = { r with draft := some { r.draftAt n with
      responses := (r.draftAt n).responses.insert .scan response } } := by
  have hother {line : Line} (hkind : Line.Says cs line)
      (hline : ∀ name body, line ≠ .group name body) : False := by
    rw [hkind.isScanGroup_eq_false hline] at hcs
    cases hcs
  cases h with
  | comment text => exact (hother (.comment text) (by simp)).elim
  | heading => exact (hother .pointTable (by simp)).elim
  | tableEnd | idle | close => exact (hother .blank (by simp)).elim
  | row inside adds =>
    cases adds with
    | row opened closed scored =>
      exact absurd ((Line.isScanGroup_ofProbe opened closed).1 hcs) scored
  | extend outside adds =>
    cases adds with
    | title text => exact (hother (.title text) (by simp)).elim
    | classes text => exact (hother (.classes text) (by simp)).elim
    | cpe text => exact (hother (.cpe text) (by simp)).elim
    | @group _ _ _ response opened closed =>
      obtain rfl := (Line.isScanGroup_ofProbe opened closed).1 hcs
      exact ⟨response, rfl⟩

/-- Such a group can be left out. -/
theorem Mirrors.skip (h : r.Mirrors s) (hmoves : Moves n cs r r') (hcs : Line.isScanGroup cs) :
    r'.Mirrors s := by
  obtain ⟨response, rfl⟩ := hmoves.of_isScanGroup hcs
  exact ⟨h.fingerprints, h.points, h.table, fun habsent => absurd habsent (Option.some_ne_none _),
    fun _ k => (h.draft n k).insert_scan response⟩

/-- Any other line does the same to both, under whichever number. -/
theorem Mirrors.moves (h : r.Mirrors s) (hmoves : Moves n cs r r')
    (hcs : Line.isScanGroup cs = false) (k : Nat) : ∃ s', Moves k cs s s' ∧ r'.Mirrors s' := by
  cases hmoves with
  | comment text => exact ⟨s, .comment text s, h⟩
  | heading outside first =>
    refine ⟨_, .heading (h.table.trans outside) (h.points.trans first), ?_⟩
    exact ⟨h.fingerprints, h.points, rfl, h.absent, h.draft⟩
  | row inside adds =>
    refine ⟨_, .row (h.table.trans inside) adds, ?_⟩
    exact ⟨h.fingerprints, h.points, rfl, h.absent, h.draft⟩
  | tableEnd inside =>
    refine ⟨_, .tableEnd (h.table.trans inside), ?_⟩
    exact ⟨h.fingerprints, rfl, rfl, h.absent, h.draft⟩
  | idle outside absent =>
    exact ⟨s, .idle (h.table.trans outside) (h.absent absent), h⟩
  | @close _ d f outside present closes =>
    have hdraft : d.Mirrors (s.draftAt 0) := by
      have hdraft := h.draft 0 0
      rwa [draftAt, present, Option.getD_some] at hdraft
    obtain ⟨f', hclose, hsame⟩ := hdraft.close closes
    -- The name is not the scan's, so that there is a record to close.
    cases hs : s.draft with
    | none =>
      rw [draftAt, hs, Option.getD_none] at hclose
      cases hclose
    | some e =>
      rw [draftAt, hs, Option.getD_some] at hclose
      refine ⟨_, .close (h.table.trans outside) hs hclose, ?_, h.points, h.table, fun _ => rfl, ?_⟩
      · simp [h.fingerprints, hsame]
      · exact fun _ _ => ⟨rfl, rfl, rfl, fun _ _ => rfl⟩
  | extend outside adds =>
    obtain ⟨e, hadds, hmirrors⟩ := (h.draft n k).adds adds hcs k
    refine ⟨_, .extend (h.table.trans outside) hadds, ?_⟩
    exact ⟨h.fingerprints, h.points, h.table,
      fun habsent => absurd habsent (Option.some_ne_none _), fun _ _ => hmirrors⟩

/-- The lines that are no such groups lead to the same. -/
theorem Mirrors.runs {ls ls' : List (List Char × Nat)} (h : r.Mirrors s) (hruns : Runs ls r r')
    (hls' : ls'.map (·.1) = (ls.map (·.1)).filter (!Line.isScanGroup ·)) :
    ∃ s', Runs ls' s s' ∧ r'.Mirrors s' := by
  induction hruns generalizing s ls' with
  | nil =>
    obtain rfl := List.map_eq_nil_iff.1 hls'
    exact ⟨s, .nil s, h⟩
  | @cons line _ _ _ _ moves _ ih =>
    rw [List.map_cons] at hls'
    cases hcs : Line.isScanGroup line.1 with
    | true =>
      rw [List.filter_cons_of_neg (by simp [hcs])] at hls'
      exact ih (h.skip moves hcs) hls'
    | false =>
      rw [List.filter_cons_of_pos (by simp [hcs])] at hls'
      obtain ⟨line', rest, rfl, hline, hrest⟩ := List.map_eq_cons_iff.1 hls'
      obtain ⟨m, hm, hmirrors⟩ := h.moves moves hcs line'.2
      obtain ⟨s', hs', hmirrors'⟩ := ih hmirrors hrest
      exact ⟨s', .cons (hline ▸ hm) hs', hmirrors'⟩

end Reading

/-- The lines that do not describe the scan. -/
def linesWithoutScan (ls : List (List Char)) : List (List Char) :=
  ls.filter fun l => !Line.isScanGroup (trimEnd l)

/-- Leaving out the groups that describe the scan leaves a database, with the same points and the
same fingerprints, but for the scan and the numbers of lines. -/
theorem exists_ofText_of_linesWithoutScan {source text : String} {d : Database}
    (h : (ofText source text).outcome = .ok d) (source' : String) {text' : String}
    (htext' : lines text'.toList = linesWithoutScan (lines text.toList)) :
    ∃ d', (ofText source' text').outcome = .ok d' ∧ d'.points = d.points ∧
      d'.unnumbered.withoutScan = d.unnumbered.withoutScan := by
  obtain ⟨r, hruns, htable, r', hend, hpoints, hfingerprints⟩ := outcome_ofText_eq_ok_iff.1 h
  have hls : (numberedLines 1 text').map (·.1) =
      ((numberedLines 1 text).map (·.1)).filter (!Line.isScanGroup ·) := by
    rw [map_fst_numberedLines, map_fst_numberedLines, htext', linesWithoutScan, List.filter_map]
    rfl
  obtain ⟨s, hruns', hmirrors⟩ := Reading.mirrors_start.runs hruns hls
  obtain ⟨s', hend', hmirrors'⟩ := hmirrors.moves hend (Line.Says.blank.isScanGroup_eq_false nofun)
    (lines text'.toList).length
  have hd' : (ofText source' text').outcome = .ok ⟨s'.fingerprints.toList, d.points⟩ :=
    outcome_ofText_eq_ok_iff.2 ⟨s, hruns', hmirrors.table.trans htable, s', hend',
      hmirrors'.points.trans hpoints, rfl⟩
  refine ⟨_, hd', rfl, ?_⟩
  simp only [unnumbered, withoutScan, mapFingerprints, List.map_map, ← hfingerprints,
    Function.comp_def, hmirrors'.fingerprints]

/-- Databases that are the same but for groups that describe the scan have the same points and the
same fingerprints, but for the scan and the numbers of lines. -/
theorem same_of_linesWithoutScan {source source' text text' : String} {d d' : Database}
    (h : (ofText source text).outcome = .ok d) (h' : (ofText source' text').outcome = .ok d')
    (hls : linesWithoutScan (lines text'.toList) = linesWithoutScan (lines text.toList)) :
    d'.points = d.points ∧ d'.unnumbered.withoutScan = d.unnumbered.withoutScan := by
  -- Both are the same as the database without any of these groups.
  have hbare : lines (textOfLines (linesWithoutScan (lines text.toList))).toList =
      linesWithoutScan (lines text.toList) :=
    lines_textOfLines fun l hl => newline_not_mem_of_mem_lines (List.mem_of_mem_filter hl)
  obtain ⟨e, he, hpoints, hsame⟩ := exists_ofText_of_linesWithoutScan h "" hbare
  obtain ⟨e', he', hpoints', hsame'⟩ :=
    exists_ofText_of_linesWithoutScan h' "" (hbare.trans hls.symm)
  obtain rfl := Except.ok.inj (he.symm.trans he')
  exact ⟨hpoints'.symm.trans hpoints, hsame'.symm.trans hsame⟩

end Database

/-! ## Scores and percentages -/

/-- A ranked fingerprint without the line of its name. -/
def Ranked.unnumbered (m : Ranked) : Ranked := { m with line := 0 }

namespace Database

variable (d : Database) (os : List Observation)

/-- The numbers of lines do not count. -/
theorem outcome_scores_unnumbered : (d.unnumbered.scores os).outcome = (d.scores os).outcome :=
  d.outcome_scores_mapFingerprints os fun _ _ _ => rfl

theorem outcome_bestMatches_unnumbered (limit : Nat) :
    (d.unnumbered.bestMatches os limit).outcome =
      (d.bestMatches os limit).outcome.map (·.map (·.unnumbered)) := by
  have hkept (f : Fingerprint) (p : Probe) (_ : p ≠ .scan) :
      f.unnumbered.response? p = f.response? p := rfl
  have hshown (f : Fingerprint) (s : Nat) : Ranked.ofScore d.points.most f.unnumbered s =
      (Ranked.ofScore d.points.most f s).unnumbered := rfl
  exact d.outcome_bestMatches_mapFingerprints os hkept hshown limit

/-- The point table of an accepted text has no entry for the scan. -/
theorem ne_scan_of_mem_entries {source text : String} (h : (ofText source text).outcome = .ok d)
    {e : Probe × String × UInt32} (he : e ∈ d.points.entries) : e.1 ≠ .scan := by
  intro hscan
  have hrow := (legal_points_of_ofText h).informational
  have hpoints := d.points.mem_entries_iff.1 he
  rw [hscan, PointTable.points?, hrow] at hpoints
  cases hpoints

end Database

/-! ## Queries -/

namespace Query

/-- The groups that do not describe the scan. -/
def groupsWithoutScan (gs : List Group) : List Group :=
  gs.filter (!·.probe.isInformational)

/-- A query may go without the group that describes the scan. -/
theorem Spells.groupsWithoutScan {text text' : String} {gs : List Group} (h : Spells text gs)
    (htext' : dropBlanks text'.toList = (groupsWithoutScan gs).flatMap (·.text)) :
    Spells text' (groupsWithoutScan gs) where
  text := htext'
  wellFormed g hg := h.wellFormed g (List.mem_of_mem_filter hg)
  nodup := h.nodup.sublist (List.filter_sublist.map _)

/-- The other groups report the evidence. -/
theorem evidence_observations_ofGroups (gs : List Group) :
    evidence (ofGroups gs).observations = (ofGroups (groupsWithoutScan gs)).observations := by
  rw [observations_ofGroups, observations_ofGroups]
  induction gs with
  | nil => rfl
  | cons g gs ih =>
    unfold evidence groupsWithoutScan at ih ⊢
    rw [List.flatMap_cons, List.filter_append, ih]
    -- All observations of the group are of its probe.
    by_cases hprobe : g.probe.isInformational
    · have hnone : ∀ o ∈ g.observations, ¬ (!o.probe.isInformational) = true := by
        intro o ho
        simp [g.probe_of_mem_observations ho, hprobe]
      rw [List.filter_cons_of_neg (by simp [hprobe]), List.filter_eq_nil_iff.2 hnone,
        List.nil_append]
    · have hall : ∀ o ∈ g.observations, (!o.probe.isInformational) = true := by
        intro o ho
        simp [g.probe_of_mem_observations ho, hprobe]
      rw [List.filter_cons_of_pos (by simp [hprobe]), List.filter_eq_self.2 hall,
        List.flatMap_cons]

end Query

/-- **The description of the scan is informational.** Observations of the scan itself, and what
fingerprints say about it, may be left out, put in or changed: scores, best matches and faults stay.
A database that was read has no points for the scan, and none of them in the most that can be
earned. The lines that describe the scan may be left out of its text; whichever there are, the
points and the scores are the same, and the best matches but for the numbers of lines. The group
that describes the scan in a query changes no matches either. -/
theorem scan_is_informational :
    (∀ d d' : Database, d'.withoutScan = d.withoutScan → ∀ os os', evidence os' = evidence os →
      (d'.scores os').outcome = (d.scores os).outcome ∧
      ∀ limit, (d'.bestMatches os' limit).outcome = (d.bestMatches os limit).outcome) ∧
    (∀ source text d, (Database.ofText source text).outcome = .ok d →
      d.points.total .scan = 0 ∧
      d.points.most = PointTable.worth (d.points.entries.filter (·.1 ≠ .scan)) ∧
      (∀ source' text', lines text'.toList = Database.linesWithoutScan (lines text.toList) →
        ∃ d', (Database.ofText source' text').outcome = .ok d') ∧
      ∀ source' text' d', (Database.ofText source' text').outcome = .ok d' →
        Database.linesWithoutScan (lines text'.toList) =
          Database.linesWithoutScan (lines text.toList) →
        d'.points.most = d.points.most ∧
        ∀ os, (d'.scores os).outcome = (d.scores os).outcome ∧
          ∀ limit, (d'.bestMatches os limit).outcome.map (·.map (·.unnumbered)) =
            (d.bestMatches os limit).outcome.map (·.map (·.unnumbered))) ∧
    (∀ text gs, Query.Spells text gs →
      (∀ text', dropBlanks text'.toList = (Query.groupsWithoutScan gs).flatMap (·.text) →
        Query.Spells text' (Query.groupsWithoutScan gs)) ∧
      ∀ text' gs', Query.Spells text' gs' →
        Query.groupsWithoutScan gs' = Query.groupsWithoutScan gs →
        ∀ (d : Database) limit,
          (d.matchQuery text' limit).outcome = (d.matchQuery text limit).outcome) := by
  refine ⟨?_, ?_, ?_⟩
  · intro d d' hd os os' hos
    exact ⟨Database.outcome_scores_eq_of_evidence hd hos,
      Database.outcome_bestMatches_eq_of_evidence hd hos⟩
  · intro source text d h
    refine ⟨?_, ?_, ?_, ?_⟩
    · rw [PointTable.total, (Database.legal_points_of_ofText h).informational]
    · have hall : d.points.entries.filter (·.1 ≠ .scan) = d.points.entries :=
        List.filter_eq_self.2 fun e he => decide_eq_true (d.ne_scan_of_mem_entries h he)
      rw [hall, d.points.most_eq_worth_entries]
    · intro source' text' htext'
      obtain ⟨d', hd', -⟩ := Database.exists_ofText_of_linesWithoutScan h source' htext'
      exact ⟨d', hd'⟩
    · intro source' text' d' h' hls
      obtain ⟨hpoints, hsame⟩ := Database.same_of_linesWithoutScan h h' hls
      refine ⟨congrArg _ hpoints, fun os => ⟨?_, fun limit => ?_⟩⟩
      · rw [← d'.outcome_scores_unnumbered, ← d.outcome_scores_unnumbered]
        exact Database.outcome_scores_eq_of_evidence hsame rfl
      · rw [← d'.outcome_bestMatches_unnumbered, ← d.outcome_bestMatches_unnumbered]
        exact Database.outcome_bestMatches_eq_of_evidence hsame rfl limit
  · intro text gs hgs
    refine ⟨fun text' htext' => hgs.groupsWithoutScan htext', ?_⟩
    intro text' gs' hgs' hsame d limit
    rw [d.outcome_matchQuery hgs'.outcome_ofText, d.outcome_matchQuery hgs.outcome_ofText]
    refine Database.outcome_bestMatches_eq_of_evidence rfl ?_ limit
    rw [Query.evidence_observations_ofGroups, hsame, ← Query.evidence_observations_ofGroups]

/-- A line that describes the scan opens a record, and the scan is described in the query, seen as
silent and observed in a test that has no points. -/
theorem scan_is_informational_everywhere :
    let table := "MatchPoints\nT1(R=30)\n\n"
    let record := "Fingerprint box\nSEQ()\nOPS()\nWIN()\nECN()\nT1(R=Y)\nT2()\nT3()\nT4()\nT5()
T6()\nT7()\nU1()\nIE()\n"
    let observed : Observation := ⟨.t1, "R", "Y"⟩
    ∃ d d', (Database.ofText "" (table ++ "SCAN(V=1) \n" ++ record)).outcome = .ok d ∧
      (Database.ofText "" (table ++ record)).outcome = .ok d' ∧
      d'.points.most = d.points.most ∧
      (d'.scores [observed]).outcome =
        (d.scores [.silence .scan, observed, ⟨.scan, "X", ""⟩]).outcome ∧
      ∀ limit, (d.matchQuery "SCAN(V=5%E=4)\nT1(R=Y)" limit).outcome =
        (d.matchQuery "T1(R=Y)" limit).outcome := by
  intro table record observed
  obtain ⟨hruns, htexts, hqueries⟩ := scan_is_informational
  obtain ⟨d, hd⟩ : ∃ d, (Database.ofText "" (table ++ "SCAN(V=1) \n" ++ record)).outcome = .ok d :=
    exists_eq_ok_of_isOk (by decide +kernel)
  have hlines : lines (table ++ record).toList = Database.linesWithoutScan
      (lines (table ++ "SCAN(V=1) \n" ++ record).toList) := by decide +kernel
  obtain ⟨-, -, hshorter, hsame⟩ := htexts _ _ d hd
  obtain ⟨d', hd'⟩ := hshorter "" _ hlines
  obtain ⟨hmost, hscores⟩ := hsame _ _ d' hd' (by rw [hlines]; simp [Database.linesWithoutScan])
  have hspells : Query.Spells "SCAN(V=5%E=4)\nT1(R=Y)"
      [⟨.scan, [("V", "5"), ("E", "4")]⟩, ⟨.t1, [("R", "Y")]⟩] := by decide +kernel
  have hspells' : Query.Spells "T1(R=Y)" [⟨.t1, [("R", "Y")]⟩] := by decide +kernel
  refine ⟨d, d', hd, hd', hmost, ?_, fun limit => ?_⟩
  · rw [(hscores [observed]).1]
    exact (hruns d d rfl _ _ (by decide)).1
  · exact (hqueries _ _ hspells').2 _ _ hspells (by decide) d limit

end OsDetection
