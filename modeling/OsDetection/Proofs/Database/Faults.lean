import OsDetection.Proofs.Database.Moves

/-!
# What can be wrong with a line of a database

Where `Reading.Moves` lists what a line can do, this module lists what can be wrong with it, one
rule for each kind of fault: in the body of a group line (`Response.Stops`), in that of a row of
points (`PointRow.Stops`), in a line as it stands (`Line.Stops`), and in a line together with what
was read before it (`Reading.Stops`). A line is only ever read as faulty for one of these reasons
(`Reading.stops_of_step`). A record that is closed is told by its own line (`Draft.close_eq_error`),
which may be an earlier one.
-/

namespace OsDetection

open OsDetection.Text

/-! ## Bodies -/

namespace Response

variable {source content : String} {line : Nat} {probe : Probe} {body : List Char} {fault : Fault}

/-- What can be wrong with the body of a group in a record. `content` is the line it stands on. -/
inductive Stops (line : Nat) (content : String) (probe : Probe) (body : List Char) : Fault → Prop
  | badEntry {entry : List Char} {reason : Entry.Fault} (mem : entry ∈ split '%' body)
    (reads : Entry.ofText entry = .error reason) :
    Stops line content probe body (.badEntry line (String.ofList entry) reason)
  | mixedSilence (silence : "R=N".toList ∈ split '%' body) (mixed : (split '%' body).length ≠ 1) :
    Stops line content probe body (.malformedLine line content)
  | unknownTest {names value : List Char} {test : String}
    (mem : names ++ '=' :: value ∈ split '%' body) (first : '=' ∉ names)
    (named : test.toList ∈ split '|' names) (unknown : ¬ probe.accepts test) :
    Stops line content probe body (.unknownTest line probe test)

/-- The test of an entry that is not accepted is unknown. -/
theorem Stops.of_find {entries : List Entry} {test : String}
    (read : List.Forall₂ (fun cs e => Entry.ofText cs = .ok e) (split '%' body) entries)
    (h : ((entries.flatMap (·.pairs)).map (·.1)).find? (!probe.accepts ·) = some test) :
    Stops line content probe body (.unknownTest line probe test) := by
  have hunknown : ¬ probe.accepts test := by simpa using List.find?_some h
  obtain ⟨pair, hpair, rfl⟩ := List.mem_map.1 (List.mem_of_find?_eq_some h)
  obtain ⟨e, he, hpair⟩ := List.mem_flatMap.1 hpair
  obtain ⟨name, hname, rfl⟩ := List.mem_map.1 hpair
  obtain ⟨cs, hcs, hread⟩ := exists_mem_of_forall₂ read he
  obtain ⟨names, hcut, hnames⟩ := Entry.ofText_eq_ok_iff.1 hread
  obtain ⟨rfl, hfirst⟩ := cut?_eq_some_iff.1 hcut
  obtain ⟨piece, hpiece, hspells⟩ := exists_mem_of_forall₂ hnames hname
  rw [← Entry.toList_of_nameOfText hspells] at hpiece
  exact .unknownTest hcs hfirst hpiece hunknown

/-- A body is only refused for one of the reasons. -/
theorem stops_of_ofBody (h : (ofBody source line content probe body).outcome = .error fault) :
    Stops line content probe body fault := by
  unfold ofBody at h
  split at h
  · cases h
  · rcases Logged.outcome_bind_eq_error_iff.1 h with h | ⟨entries, hread, h⟩
    · rw [Logged.outcome_ofExcept] at h
      obtain ⟨entry, hentry, h⟩ := exists_mem_of_mapM_eq_error h
      obtain ⟨reason, hreads, rfl⟩ := mapError_eq_error_iff.1 h
      exact .badEntry hentry hreads
    · have read := mapM_entryOfText_eq_ok_iff.1 hread
      rcases outcome_ofEntries_eq_error_iff.1 h with
        ⟨hsilence, hlength, rfl⟩ | ⟨-, test, hfind, rfl⟩
      · rw [← read.length_eq] at hlength
        exact .mixedSilence ((any_isSilence_iff read).1 hsilence) hlength
      · exact .of_find read hfind

end Response

namespace PointRow

variable {content : String} {line : Nat} {probe : Probe} {body : List Char} {fault : Fault}

/-- What can be wrong with the body of a row of points. `content` is the line it stands on. -/
inductive Stops (line : Nat) (content : String) (probe : Probe) (body : List Char) : Fault → Prop
  | missingEquals {entry : List Char} (mem : entry ∈ split '%' body) (plain : '=' ∉ entry) :
    Stops line content probe body (.malformedLine line content)
  | unknownTest {test : String} {value : List Char}
    (mem : test.toList ++ '=' :: value ∈ split '%' body) (first : '=' ∉ test.toList)
    (unknown : ¬ probe.accepts test) : Stops line content probe body (.unknownTest line probe test)
  | badPoints {test : String} {value : List Char}
    (mem : test.toList ++ '=' :: value ∈ split '%' body) (first : '=' ∉ test.toList)
    (bad : pointsOfText? value = none) :
    Stops line content probe body (.badPoints line probe test (String.ofList value))
  | repeatedPoints {test : String} {value earlier : List Char} {before after : List (List Char)}
    (entries : split '%' body = before ++ (test.toList ++ '=' :: value) :: after)
    (first : '=' ∉ test.toList) (given : test.toList ++ '=' :: earlier ∈ before) :
    Stops line content probe body (.repeatedPoints line probe test)

/-- A row is only refused for one of the reasons. -/
theorem stops_of_ofBody (h : ofBody line content probe body = .error fault) :
    Stops line content probe body fault := by
  obtain ⟨before, entry, after, row, hentries, hbefore, h⟩ := foldlM_eq_error_iff.1 h
  have hmem : entry ∈ split '%' body := by simp [hentries]
  unfold addEntry at h
  split at h
  · next hcut =>
    cases h
    exact .missingEquals hmem (cut?_eq_none_iff.1 hcut)
  · next name value hcut =>
    obtain ⟨rfl, hfirst⟩ := cut?_eq_some_iff.1 hcut
    rw [← String.toList_ofList (l := name)] at hmem hfirst hentries
    dsimp only at h
    split at h
    · split at h
      · next hbad =>
        cases h
        exact .badPoints hmem hfirst hbad
      · split at h
        · next hgiven =>
          cases h
          obtain ⟨pairs, hpairs, -, rfl⟩ :=
            (@foldlM_addEntry_eq_ok_iff content line probe [] _ _ List.nodup_nil).1 hbefore
          rw [List.nil_append, Std.ExtTreeMap.contains_ofList] at hgiven
          obtain ⟨pair, hpair, hname⟩ : ∃ pair ∈ pairs, pair.1 = String.ofList name := by
            simpa using hgiven
          obtain ⟨earlier, hearlier, value', rfl, -⟩ := exists_mem_of_forall₂ hpairs hpair
          rw [hname] at hearlier
          exact .repeatedPoints hentries hfirst hearlier
        · cases h
    · next hunknown =>
      cases h
      exact .unknownTest hmem hfirst hunknown

end PointRow

/-! ## Records -/

/-- A record cannot be closed if it is not named, and is then told by its line, or if it lacks
groups, and is then told by its line, its name and the probes without a group. -/
theorem Draft.close_eq_error {d : Draft} {fault : Fault} (h : d.close = .error fault) :
    d.name = none ∧ fault = .unnamed d.line ∨
      ∃ name missing, d.name = some name ∧ fault = .incomplete d.line name missing ∧
        missing ≠ [] ∧ missing = Probe.scored.filter (!d.responses.contains ·) := by
  unfold close at h
  split at h
  · next hunnamed =>
    cases h
    exact .inl ⟨hunnamed, rfl⟩
  · next name hname =>
    dsimp only at h
    split at h
    · cases h
    · next hmissing =>
      cases h
      exact .inr ⟨name, _, hname, rfl, hmissing, rfl⟩

/-! ## Lines -/

/-- What can be wrong with a line as it stands, outside of the point table or in it. -/
inductive Line.Stops (n : Nat) (cs : List Char) : Fault → Prop
  | noGroup (h : Line.group? cs = none) : Stops n cs (.malformedLine n (String.ofList cs))
  | unknownProbe {name : String} {body : List Char} (kind : Line.Says cs (.group name.toList body))
    (unknown : Probe.ofName? name = none) : Stops n cs (.unknownProbe n name)
  | body {probe : Probe} {body : List Char} {fault : Fault}
    (kind : Line.Says cs (.group probe.name.toList body))
    (stops : Response.Stops n (String.ofList cs) probe body fault) : Stops n cs fault
  | informational {probe : Probe} {body : List Char}
    (kind : Line.Says cs (.group probe.name.toList body)) (informational : probe.isInformational) :
    Stops n cs (.informationalPoints n probe)
  | row {probe : Probe} {body : List Char} {fault : Fault}
    (kind : Line.Says cs (.group probe.name.toList body))
    (stops : PointRow.Stops n (String.ofList cs) probe body fault) : Stops n cs fault

namespace Database.Reading

variable {source : String} {n : Nat} {cs name body : List Char} {r : Reading} {fault : Fault}

/-- What can be wrong with a line after what was read before it. -/
inductive Stops (n : Nat) (r : Reading) : List Char → Fault → Prop
  | line {cs : List Char} {fault : Fault} (stops : Line.Stops n cs fault) : Stops n r cs fault
  | repeatedRow {cs : List Char} {table : PointTable} {probe : Probe} {body : List Char}
    (inside : r.table = some table) (kind : Line.Says cs (.group probe.name.toList body))
    (given : table.contains probe) : Stops n r cs (.repeatedRow n probe)
  | repeatedGroup {cs : List Char} {d : Draft} {probe : Probe} {body : List Char}
    (outside : r.table = none) (present : r.draft = some d)
    (kind : Line.Says cs (.group probe.name.toList body)) (given : d.responses.contains probe) :
    Stops n r cs (.repeatedGroup n probe (d.name.getD ""))
  | title {cs : List Char} {d : Draft} {name earlier : String} (outside : r.table = none)
    (present : r.draft = some d) (kind : Line.Says cs (.title name))
    (named : d.name = some earlier) : Stops n r cs (.unterminated n earlier)
  | heading {table : PointTable} (outside : r.table = none) (again : r.points = some table) :
    Stops n r "MatchPoints".toList (.repeatedTable n)
  | close {d : Draft} {fault : Fault} (outside : r.table = none) (present : r.draft = some d)
    (closes : d.close = .error fault) : Stops n r [] fault

/-- The record that a line is added to is the one that is open, if something was read of it. -/
theorem eq_some_draftAt (h : (r.draftAt n).name ≠ none ∨ ∃ p, (r.draftAt n).responses.contains p) :
    r.draft = some (r.draftAt n) := by
  unfold draftAt at *
  cases hd : r.draft with
  | none => simp [hd, Draft.start] at h
  | some d => rfl

/-- Only a record that is open can fail to be closed. -/
theorem closeDraft_eq_error (h : r.closeDraft.outcome = .error fault) :
    ∃ d, r.draft = some d ∧ d.close = .error fault := by
  unfold closeDraft at h
  split at h
  · cases h
  · next d present =>
    rcases Logged.outcome_bind_eq_error_iff.1 h with h | ⟨_, -, h⟩
    · exact ⟨d, present, h⟩
    · cases h

theorem stops_of_addGroup (outside : r.table = none) (kind : Line.Says cs (.group name body))
    (h : (addGroup source r n (String.ofList cs) name body).outcome = .error fault) :
    Stops n r cs fault := by
  rw [← String.toList_ofList (l := name)] at kind
  unfold addGroup at h
  split at h
  · next hunknown =>
    cases h
    exact .line (.unknownProbe kind hunknown)
  · next probe hprobe =>
    rw [← Probe.ofName?_eq_some_iff.1 hprobe] at kind
    dsimp only at h
    split at h
    · next hgiven =>
      cases h
      exact .repeatedGroup outside (eq_some_draftAt (.inr ⟨probe, hgiven⟩)) kind hgiven
    · rcases Logged.outcome_bind_eq_error_iff.1 h with h | ⟨_, -, h⟩
      · exact .line (.body kind (Response.stops_of_ofBody h))
      · cases h

theorem stops_of_addRow {table : PointTable} (inside : r.table = some table)
    (kind : Line.Says cs (.group name body))
    (h : addRow r table n (String.ofList cs) name body = .error fault) : Stops n r cs fault := by
  rw [← String.toList_ofList (l := name)] at kind
  unfold addRow at h
  split at h
  · next hunknown =>
    cases h
    exact .line (.unknownProbe kind hunknown)
  · next probe hprobe =>
    rw [← Probe.ofName?_eq_some_iff.1 hprobe] at kind
    split at h
    · next hinformational =>
      cases h
      exact .line (.informational kind hinformational)
    · rcases bind_eq_error_iff.1 h with h | ⟨row, -, h⟩
      · exact .line (.row kind (PointRow.stops_of_ofBody h))
      · split at h
        · next hgiven =>
          cases h
          exact .repeatedRow inside kind hgiven
        · cases h

/-- Outside of the point table a line is only refused for one of the reasons. -/
theorem stops_of_recordLine (outside : r.table = none)
    (h : (recordLine source r n cs).outcome = .error fault) : Stops n r cs fault := by
  unfold recordLine at h
  generalize hline : Line.ofText cs = said at h
  by_cases hother : said = .other
  · rw [hother] at h hline
    cases h
    exact .line (.noGroup (Line.group?_eq_none_of_other hline))
  · have kind := (Line.ofText_eq_iff hother).1 hline
    cases said with
    | blank =>
      cases kind
      obtain ⟨d, present, closes⟩ := closeDraft_eq_error h
      exact .close outside present closes
    | comment | classes | cpe => cases h
    | pointTable =>
      cases kind
      dsimp only at h
      split at h
      · next again =>
        cases h
        exact .heading outside again
      · cases h
    | title name =>
      simp only [addTitle] at h
      split at h
      · next earlier hnamed =>
        cases h
        exact .title outside (eq_some_draftAt (.inl (by simp [hnamed]))) kind hnamed
      · cases h
    | group name body => exact stops_of_addGroup outside kind h
    | other => exact absurd rfl hother

/-- In the point table, too. -/
theorem stops_of_tableLine {table : PointTable} (inside : r.table = some table)
    (h : (r.tableLine table n cs).outcome = .error fault) : Stops n r cs fault := by
  unfold tableLine at h
  generalize hline : Line.ofText cs = said at h
  by_cases hother : said = .other
  · rw [hother] at h hline
    cases h
    exact .line (.noGroup (Line.group?_eq_none_of_other hline))
  · have kind := (Line.ofText_eq_iff hother).1 hline
    cases said with
    | blank | comment => cases h
    | pointTable | title | classes | cpe =>
      cases h
      exact .line (.noGroup (kind.group? (by simp)))
    | group name body =>
      rw [Logged.outcome_ofExcept] at h
      exact stops_of_addRow inside kind h
    | other => exact absurd rfl hother

/-- A line is only refused for one of the reasons. -/
theorem stops_of_step {line : List Char × Nat} (h : (step source r line).outcome = .error fault) :
    Stops line.2 r (trimEnd line.1) fault := by
  unfold step at h
  split at h
  · next inside => exact stops_of_tableLine inside h
  · next outside => exact stops_of_recordLine outside h

/-- At its end, a database can have its point table or its last record unfinished, or no point
table. -/
theorem finish_eq_error {lineCount : Nat} (h : (r.finish source lineCount).outcome = .error fault) :
    (∃ table, r.table = some table ∧ fault = .unexpectedEnd lineCount .pointTable) ∨
      r.table = none ∧ ((∃ d, r.draft = some d ∧ d.close = .error fault) ∨ fault = .noTable) := by
  unfold finish at h
  split at h
  · next table inside =>
    cases h
    exact .inl ⟨table, inside, rfl⟩
  · next outside =>
    refine .inr ⟨outside, ?_⟩
    rcases Logged.outcome_bind_eq_error_iff.1 h with h | ⟨r', -, h⟩
    · exact .inl (closeDraft_eq_error h)
    · split at h
      · cases h
        exact .inr rfl
      · cases h

end Database.Reading

end OsDetection
