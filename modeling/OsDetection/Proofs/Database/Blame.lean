import OsDetection.Proofs.Database.Boundaries
import OsDetection.Proofs.Database.Faults

/-!
# The line to blame

A fault of a database is told with the number of a line, and `Blames` says what that line has to do
with it. Mostly it is the line that was being read. What was read before it matters in two places.
In the point table that is the rows since the heading (`Reading.Runs.enters_table`). In a record it
is the block that ends there (`Reading.Runs.exists_record`), which may have begun before the point
table; once the record is closed, it is told by the line that names it or, without a name, by its
first line. Every fault but a missing point table is told with a line that exists and is to blame
(`ofText_blames`).
-/

namespace OsDetection

open OsDetection.Text

/-- The number of the line that a fault is told with. -/
def Fault.line? : Fault → Option Nat
  | malformedLine line _ => line
  | unknownProbe line _ => line
  | unknownTest line _ _ => line
  | repeatedGroup line _ _ => line
  | badEntry line _ _ => line
  | incomplete line _ _ => line
  | unnamed line => line
  | unterminated line _ => line
  | repeatedRow line _ => line
  | repeatedPoints line _ _ => line
  | informationalPoints line _ => line
  | badPoints line _ _ _ => line
  | repeatedTable line => line
  | noTable => none
  | unexpectedEnd line _ => line
  | misspelled line _ => line
  | noPoints _ _ => none

theorem Draft.titles_of_name {d : Draft} {name : String} (h : d.name = some name) :
    d.titles = [(d.line, name)] := by
  rw [titles, h, Option.toList_some, List.map_singleton]

theorem Draft.titles_of_unnamed {d : Draft} (h : d.name = none) : d.titles = [] := by
  rw [titles, h, Option.toList_none, List.map_nil]

namespace Database

/-! ## What a line is to blame for -/

/-- Why a line of a text is to blame for a fault: as it stands, or because of what comes before it
in its point table, in its record, or in the text. -/
inductive Blames (text : String) (n : Nat) (cs : List Char) : Fault → Prop
  | line {fault : Fault} (stops : Line.Stops n cs fault) : Blames text n cs fault
  | repeatedRow {probe : Probe} {body : List Char} {before rows after : List (List Char × Nat)}
    {heading : Nat} (kind : Line.Says cs (.group probe.name.toList body))
    (table : numberedLines 1 text =
      before ++ ("MatchPoints".toList, heading) :: (rows ++ (cs, n) :: after))
    (visible : ∀ line ∈ rows, line.1 ≠ []) (given : probe ∈ (Block.groups rows).map (·.1)) :
    Blames text n cs (.repeatedRow n probe)
  | repeatedGroup {probe : Probe} {body : List Char} {before after : Block}
    (kind : Line.Says cs (.group probe.name.toList body))
    (record : before ++ (cs, n) :: after ∈ records text)
    (given : probe ∈ before.groups.map (·.1)) :
    Blames text n cs (.repeatedGroup n probe ((before.titles.head?.map (·.2)).getD ""))
  | title {name earlier : String} {first : Nat} {before after : Block}
    (kind : Line.Says cs (.title name)) (record : before ++ (cs, n) :: after ∈ records text)
    (named : before.titles = [(first, earlier)]) : Blames text n cs (.unterminated n earlier)
  | unnamed {after : Block} (record : (cs, n) :: after ∈ records text)
    (lines : ∀ line ∈ (cs, n) :: after, RecordLine line.1)
    (unnamed : Block.titles ((cs, n) :: after) = []) : Blames text n cs (.unnamed n)
  | incomplete {name : String} {b : Block} {missing : List Probe}
    (kind : Line.Says cs (.title name)) (record : b ∈ records text)
    (titles : b.titles = [(n, name)]) (lacks : missing ≠ [])
    (groups : missing = Probe.scored.filter (· ∉ b.groups.map (·.1))) :
    Blames text n cs (.incomplete n name missing)
  | heading {earlier : Nat} (kind : Line.Says cs .pointTable) (before : earlier < n)
    (again : ("MatchPoints".toList, earlier) ∈ numberedLines 1 text) :
    Blames text n cs (.repeatedTable n)
  | unended {before rows : List (List Char × Nat)} {heading : Nat}
    (table : numberedLines 1 text = before ++ ("MatchPoints".toList, heading) :: rows)
    (visible : ∀ line ∈ rows, line.1 ≠ []) (last : n = (lines text.toList).length) :
    Blames text n cs (.unexpectedEnd n .pointTable)

/-- A fault is told with the line to blame. -/
theorem Blames.line?_eq {text : String} {n : Nat} {cs : List Char} {fault : Fault}
    (h : Blames text n cs fault) : fault.line? = some n := by
  cases h with
  | line stops =>
    cases stops with
    | body _ stops => cases stops <;> rfl
    | row _ stops => cases stops <;> rfl
    | noGroup | unknownProbe | informational => rfl
  | repeatedRow | repeatedGroup | title | unnamed | incomplete | heading | unended => rfl

/-! ## Lines of a text -/

/-- The numbered lines of a text are its lines. -/
theorem mem_numberedLines_iff {text : String} {cs : List Char} {n : Nat} :
    (cs, n) ∈ numberedLines 1 text ↔
      1 ≤ n ∧ ∃ raw, (lines text.toList)[n - 1]? = some raw ∧ trimEnd raw = cs := by
  simp only [numberedLines, List.mem_map, Prod.exists, Prod.mk.injEq,
    List.mk_mem_zipIdx_iff_le_and_getElem?_sub]
  constructor
  · rintro ⟨raw, _, ⟨hle, hraw⟩, rfl, rfl⟩
    exact ⟨hle, raw, hraw, rfl⟩
  · rintro ⟨hle, raw, hraw, rfl⟩
    exact ⟨raw, n, ⟨hle, hraw⟩, rfl, rfl⟩

/-- What is outside of the point table is among the lines. -/
theorem mem_of_mem_outsideTable {ls : List (List Char × Nat)} {line : List Char × Nat}
    (h : line ∈ outsideTable ls) : line ∈ ls := by
  rcases List.mem_append.1 h with h | h
  · exact (List.takeWhile_prefix _).mem h
  · exact (List.dropWhile_suffix _).mem ((List.dropWhile_suffix _).mem (List.mem_of_mem_tail h))

/-- Records are made of the lines of the text. -/
theorem mem_of_mem_records {text : String} {b : Block} (hb : b ∈ records text)
    {line : List Char × Nat} (hline : line ∈ b) : line ∈ numberedLines 1 text :=
  mem_of_mem_outsideTable (List.mem_filter.1 (mem_of_mem_cutAtBlanks hb hline)).1

/-- Lines without a blank one among them belong to one block, with those that follow up to the next
blank one. -/
theorem exists_mem_cutAtBlanks {b : Block} (hb : b ≠ []) (visible : ∀ line ∈ b, line.1 ≠ [])
    (rest : List (List Char × Nat)) : ∃ c, b ++ c ∈ cutAtBlanks (b ++ rest) := by
  induction rest generalizing b with
  | nil => exact ⟨[], by simp [cutAtBlanks_eq visible, hb]⟩
  | cons line rest ih =>
    obtain ⟨cs, n⟩ := line
    by_cases hcs : cs = []
    · subst hcs
      exact ⟨[], by simp [cutAtBlanks_append_cons visible, hb]⟩
    · have hvisible : ∀ line ∈ b ++ [(cs, n)], line.1 ≠ [] :=
        List.forall_mem_append.2 ⟨visible, by simpa using hcs⟩
      obtain ⟨c, hc⟩ := ih (by simp) hvisible
      exact ⟨(cs, n) :: c, by simpa using hc⟩

namespace Reading

variable {r r' : Reading} {ls : List (List Char × Nat)} {n : Nat} {cs : List Char}

/-! ## In the point table -/

/-- Lines that come later do not take a group away. -/
theorem mem_groups_append {b : Block} {p : Probe} (h : p ∈ b.groups.map (·.1)) (b' : Block) :
    p ∈ (Block.groups (b ++ b')).map (·.1) := by
  rw [Block.groups, List.filterMap_append, List.map_append]
  exact List.mem_append_left _ h

/-- Lines that lead into the point table have its heading among them, and no blank line after it.
The table has rows only for probes that have a group there. -/
theorem Runs.enters_table {t : PointTable} (h : Runs ls r r') (outside : r.table = none)
    (inside : r'.table = some t) :
    ∃ before heading rows, ls = before ++ ("MatchPoints".toList, heading) :: rows ∧
      (∀ line ∈ rows, line.1 ≠ []) ∧ ∀ p, t.contains p → p ∈ (Block.groups rows).map (·.1) := by
  -- From the right, since the heading is found back from where the table is still open.
  induction ls using List.reverseRecOn generalizing r' t with
  | nil =>
    obtain rfl := runs_nil_iff.1 h
    cases outside.symm.trans inside
  | append_singleton ls line ih =>
    obtain ⟨cs, n⟩ := line
    obtain ⟨m, hruns, hmoves⟩ := runs_concat_iff.1 h
    cases hmoves with
    | comment text =>
      obtain ⟨before, heading, rows, rfl, hrows, hgroups⟩ := ih hruns inside
      refine ⟨before, heading, rows ++ [('#' :: text, n)], by simp, ?_, fun p hp => ?_⟩
      · exact List.forall_mem_append.2 ⟨hrows, by simp⟩
      · exact mem_groups_append (hgroups p hp) _
    | heading =>
      cases inside
      refine ⟨ls, n, [], rfl, by simp, fun p hp => ?_⟩
      rw [PointTable.contains_empty] at hp
      cases hp
    | @row _ _ table _ inside' adds =>
      cases inside
      obtain ⟨before, heading, rows, rfl, hrows, hgroups⟩ := ih hruns inside'
      refine ⟨before, heading, rows ++ [(cs, n)], by simp, ?_, fun p hp => ?_⟩
      · exact List.forall_mem_append.2 ⟨hrows, by simpa using adds.ne_nil⟩
      · cases adds with
        | @row _ probe body _ opened closed =>
          rcases (PointTable.contains_insert _ _ _ _).1 hp with rfl | hp
          · rw [Block.groups, List.filterMap_append]
            simp [group?_eq_some opened closed]
          · exact mem_groups_append (hgroups p hp) _
    | tableEnd => cases inside
    | idle outside' | close outside' | extend outside' => cases outside'.symm.trans inside

/-! ## Outside of it -/

/-- The lines that the record which is open was read from are the last block of a text that ends
here. A line that comes next ends the block, if it is blank, and continues it otherwise. -/
theorem Runs.exists_record (h : Runs ls .start r) (outside : r.table = none) :
    ∃ closed b, r.Opened b ∧
      cutAtBlanks ((outsideTable ls).filter fun line => !isComment line) = closed ++ cutAtBlanks b ∧
      ∀ line rest, line.1 ≠ "MatchPoints".toList → ¬ isComment line → ∃ rest',
        cutAtBlanks ((outsideTable (ls ++ line :: rest)).filter fun line => !isComment line) =
          closed ++ cutAtBlanks (b ++ line :: rest') := by
  obtain ⟨hls, hruns, hnext⟩ := h.exists_outside outside
  obtain ⟨closed, b, hb, hcut⟩ := hruns.exists_opened hls rfl rfl
  refine ⟨closed, b, hb, by simpa using hcut [], fun line rest hline hcomment => ?_⟩
  obtain ⟨rest', hrest⟩ := hnext line rest hline
  refine ⟨rest'.filter fun line => !isComment line, ?_⟩
  rw [hrest, List.filter_append, List.filter_cons_of_pos (by simpa using hcomment), hcut]

/-! ## The record that is open -/

variable {b : Block} {text : String} {fault : Fault}

/-- A record that is open was read from its lines. -/
theorem Opened.exists_grows {d : Draft} (h : r.Opened b) (present : r.draft = some d) :
    ∃ line rest, b = line :: rest ∧ Grows b (.start line.2) d := by
  cases h with
  | noRecord absent => cases absent.symm.trans present
  | @record line rest _ present' grows =>
    cases present.symm.trans present'
    exact ⟨line, rest, rfl, grows⟩

/-- The lines that a record was read from say what was read of it. -/
theorem Opened.drafted {d : Draft} (h : r.Opened b) (present : r.draft = some d) : Drafted b d := by
  obtain ⟨line, rest, -, hgrows⟩ := h.exists_grows present
  exact (drafted_start line.2).grows hgrows

theorem Opened.visible (h : r.Opened b) : ∀ line ∈ b, line.1 ≠ [] := by
  cases h with
  | noRecord => simp
  | record _ grows => exact grows.visible

/-- A record that cannot be closed is told by one of its lines, which is to blame. -/
theorem Opened.exists_blames {d : Draft} (h : r.Opened b) (present : r.draft = some d)
    (closes : d.close = .error fault) (record : b ∈ records text) :
    ∃ n cs, (cs, n) ∈ b ∧ Blames text n cs fault := by
  have hdrafted := h.drafted present
  obtain ⟨⟨cs, n⟩, rest, rfl, hgrows⟩ := h.exists_grows present
  rcases Draft.close_eq_error closes with
    ⟨hname, rfl⟩ | ⟨name, missing, hname, rfl, hlacks, hmissing⟩
  · rw [(hgrows.line_eq hname).2]
    refine ⟨n, cs, List.mem_cons_self, .unnamed record hdrafted.lines ?_⟩
    rw [hdrafted.titles, Draft.titles_of_unnamed hname]
  · have htitles : Block.titles ((cs, n) :: rest) = [(d.line, name)] := by
      rw [hdrafted.titles, Draft.titles_of_name hname]
    have hmem : (d.line, name) ∈ Block.titles ((cs, n) :: rest) := by simp [htitles]
    obtain ⟨⟨cs', n'⟩, hline, htitle⟩ := List.mem_filterMap.1 hmem
    obtain ⟨rfl, kind⟩ := says_of_title? htitle
    refine ⟨d.line, cs', hline, .incomplete kind record htitles hlacks ?_⟩
    rw [hmissing]
    refine List.filter_congr fun p _ => ?_
    rw [Bool.eq_iff_iff, Bool.not_eq_true', ← Bool.not_eq_true, hdrafted.contains_iff,
      decide_eq_true_iff]

/-- A line that is neither blank nor a comment nor a heading belongs to a record of its text, after
the lines that the record was read from before. -/
theorem Runs.exists_mem_records {after : List (List Char × Nat)} {line : Line}
    (h : Runs ls .start r) (outside : r.table = none)
    (hlines : numberedLines 1 text = ls ++ (cs, n) :: after) (kind : Line.Says cs line)
    (hkind : line ≠ .blank ∧ line ≠ .comment ∧ line ≠ .pointTable) :
    ∃ b c, r.Opened b ∧ b ++ (cs, n) :: c ∈ records text := by
  obtain ⟨hblank, hcomment, hpointTable⟩ := hkind
  have hvisible : cs ≠ [] := by
    rintro rfl
    exact hblank (kind.unique .blank)
  have hheading : cs ≠ "MatchPoints".toList := by
    rintro rfl
    exact hpointTable (kind.unique .pointTable)
  have hplain : ¬ isComment (cs, n) := by
    intro h
    obtain ⟨text, rfl⟩ := isComment_iff.1 h
    exact hcomment (kind.unique (.comment text))
  obtain ⟨closed, b, hb, -, hnext⟩ := h.exists_record outside
  obtain ⟨rest, hrest⟩ := hnext (cs, n) after hheading hplain
  have hblock : ∀ line ∈ b ++ [(cs, n)], line.1 ≠ [] :=
    List.forall_mem_append.2 ⟨hb.visible, by simpa using hvisible⟩
  obtain ⟨c, hc⟩ := exists_mem_cutAtBlanks (by simp) hblock rest
  rw [List.append_assoc, List.append_assoc, List.singleton_append, List.singleton_append] at hc
  refine ⟨b, c, hb, ?_⟩
  rw [records, hlines, hrest]
  exact List.mem_append_right closed hc

/-- A record that is closed by the line that comes next is one of its text. -/
theorem Runs.exists_mem_records_of_blank {after : List (List Char × Nat)}
    (h : Runs ls .start r) (outside : r.table = none)
    (hlines : numberedLines 1 text = ls ++ ([], n) :: after) {d : Draft}
    (present : r.draft = some d) : ∃ b, r.Opened b ∧ b ∈ records text := by
  obtain ⟨closed, b, hb, -, hnext⟩ := h.exists_record outside
  obtain ⟨rest, hrest⟩ := hnext ([], n) after (by simp) (by simp [isComment])
  obtain ⟨line, lines, rfl, -⟩ := hb.exists_grows present
  refine ⟨_, hb, ?_⟩
  rw [records, hlines, hrest, cutAtBlanks_append_cons hb.visible]
  simp

/-- A record that is closed by the end of the text is one of its text. -/
theorem Runs.exists_mem_records_of_end (h : Runs (numberedLines 1 text) .start r)
    (outside : r.table = none) {d : Draft} (present : r.draft = some d) :
    ∃ b, r.Opened b ∧ b ∈ records text := by
  obtain ⟨closed, b, hb, hcut, -⟩ := h.exists_record outside
  obtain ⟨line, lines, rfl, -⟩ := hb.exists_grows present
  refine ⟨_, hb, ?_⟩
  rw [records, hcut, cutAtBlanks_eq hb.visible]
  simp

/-- What is found wrong with a line is told with a line of the text, which is to blame. -/
theorem Stops.exists_blames {after : List (List Char × Nat)} (h : r.Stops n cs fault)
    (hruns : Runs ls .start r) (hlines : numberedLines 1 text = ls ++ (cs, n) :: after) :
    ∃ k cs', (cs', k) ∈ numberedLines 1 text ∧ Blames text k cs' fault := by
  have hmem : (cs, n) ∈ numberedLines 1 text := by simp [hlines]
  cases h with
  | line stops => exact ⟨n, cs, hmem, .line stops⟩
  | repeatedRow inside kind given =>
    obtain ⟨before, heading, rows, rfl, hrows, hgroups⟩ := hruns.enters_table rfl inside
    rw [List.append_assoc, List.cons_append] at hlines
    exact ⟨n, cs, hmem, .repeatedRow kind hlines hrows (hgroups _ given)⟩
  | @repeatedGroup _ d _ _ outside present kind given =>
    obtain ⟨b, c, hb, hrecord⟩ := hruns.exists_mem_records outside hlines kind (by simp)
    have hdrafted := hb.drafted present
    have hname : d.name.getD "" = (b.titles.head?.map (·.2)).getD "" := by
      rw [hdrafted.titles, Draft.titles]
      cases d.name <;> rfl
    rw [hname]
    exact ⟨n, cs, hmem, .repeatedGroup kind hrecord (hdrafted.contains_iff.1 given)⟩
  | @title _ d _ earlier outside present kind named =>
    obtain ⟨b, c, hb, hrecord⟩ := hruns.exists_mem_records outside hlines kind (by simp)
    have htitles : b.titles = [(d.line, earlier)] := by
      rw [(hb.drafted present).titles, Draft.titles_of_name named]
    exact ⟨n, cs, hmem, .title kind hrecord htitles⟩
  | heading outside again =>
    obtain ⟨before, rows, rest, k, _, _, haround⟩ := hruns.exists_around outside again
    have hheading : ("MatchPoints".toList, k) ∈ ls := by simp [haround.lines]
    have hnumbers := pairwise_numberedLines 1 text
    rw [hlines, List.pairwise_append] at hnumbers
    refine ⟨n, _, hmem, .heading .pointTable (hnumbers.2.2 _ hheading _ List.mem_cons_self) ?_⟩
    rw [hlines]
    exact List.mem_append_left _ hheading
  | close outside present closes =>
    obtain ⟨b, hb, hrecord⟩ := hruns.exists_mem_records_of_blank outside hlines present
    obtain ⟨k, cs', hline, hblames⟩ := hb.exists_blames present closes hrecord
    exact ⟨k, cs', mem_of_mem_records hrecord hline, hblames⟩

/-- What is found wrong at the end is told with a line of the text, which is to blame, unless there
was no point table. -/
theorem exists_blames_of_finish {source : String} (hruns : Runs (numberedLines 1 text) .start r)
    (h : (r.finish source (lines text.toList).length).outcome = .error fault)
    (hfault : fault ≠ .noTable) :
    ∃ k cs', (cs', k) ∈ numberedLines 1 text ∧ Blames text k cs' fault := by
  rcases finish_eq_error h with ⟨t, inside, rfl⟩ | ⟨outside, ⟨d, present, closes⟩ | rfl⟩
  · obtain ⟨before, heading, rows, htable, hrows, -⟩ := hruns.enters_table rfl inside
    have hlength : (lines text.toList).length = (numberedLines 1 text).length := by
      simp [numberedLines]
    have hpos : 1 ≤ (lines text.toList).length := by
      rw [hlength, htable, List.length_append, List.length_cons]
      omega
    have hlast : (lines text.toList).length - 1 < (lines text.toList).length := by omega
    exact ⟨_, _, mem_numberedLines_iff.2 ⟨hpos, _, List.getElem?_eq_getElem hlast, rfl⟩,
      .unended htable hrows rfl⟩
  · obtain ⟨b, hb, hrecord⟩ := hruns.exists_mem_records_of_end outside present
    obtain ⟨k, cs', hline, hblames⟩ := hb.exists_blames present closes hrecord
    exact ⟨k, cs', mem_of_mem_records hrecord hline, hblames⟩
  · exact absurd rfl hfault

end Reading

/-! ## Every fault -/

/-- A fault is found on a line after those before it were read, or at the end. -/
theorem outcome_ofText_eq_error {source text : String} {fault : Fault}
    (h : (ofText source text).outcome = .error fault) :
    (∃ before cs n after r, numberedLines 1 text = before ++ (cs, n) :: after ∧
        Reading.Runs before .start r ∧ r.Stops n cs fault) ∨
      ∃ r, Reading.Runs (numberedLines 1 text) .start r ∧
        (r.finish source (lines text.toList).length).outcome = .error fault := by
  unfold ofText ofLines at h
  rcases Logged.outcome_bind_eq_error_iff.1 h with h | ⟨r, hr, h⟩
  · obtain ⟨before, line, after, r, hlines, hr, hstep⟩ := Logged.outcome_foldl_eq_error_iff.1 h
    have hnumbered := congrArg (List.map fun line => (trimEnd line.1, line.2)) hlines
    rw [List.map_append, List.map_cons] at hnumbered
    exact .inl ⟨_, _, _, _, r, hnumbered, Reading.outcome_foldl_step_eq_ok_iff.1 hr,
      Reading.stops_of_step hstep⟩
  · exact .inr ⟨r, Reading.outcome_foldl_step_eq_ok_iff.1 hr, h⟩

/-- **The line to blame.** A text that is no database, for another reason than that it has no point
table, has a fault that is told with the number of one of its lines, and that line is to blame. -/
theorem ofText_blames {source text : String} {fault : Fault}
    (h : (ofText source text).outcome = .error fault) (hfault : fault ≠ .noTable) :
    ∃ n raw, fault.line? = some n ∧ 1 ≤ n ∧ n ≤ (lines text.toList).length ∧
      (lines text.toList)[n - 1]? = some raw ∧ Blames text n (trimEnd raw) fault := by
  have hblames : ∃ n cs, (cs, n) ∈ numberedLines 1 text ∧ Blames text n cs fault := by
    rcases outcome_ofText_eq_error h with ⟨before, cs, n, after, r, hlines, hr, hstops⟩ | ⟨r, hr, h⟩
    · exact hstops.exists_blames hr hlines
    · exact Reading.exists_blames_of_finish hr h hfault
  obtain ⟨n, cs, hmem, hblames⟩ := hblames
  obtain ⟨hpos, raw, hraw, rfl⟩ := mem_numberedLines_iff.1 hmem
  have hlt := (List.getElem?_eq_some_iff.1 hraw).1
  exact ⟨n, raw, hblames.line?_eq, hpos, by omega, hraw, hblames⟩

/-- A record that begins before the point table and is named after it lacks groups, which shows at
the blank line after it. It is told with the line of its name. -/
theorem ofText_blames_title :
    ∃ text, text = "CPE x\nMatchPoints\nT1(R=30)\n\nT1()\nFingerprint box \n# note\nSEQ()\n\nT1()" ∧
      (ofText "" text).outcome =
        .error (.incomplete 6 "box" [.ops, .win, .ecn, .t2, .t3, .t4, .t5, .t6, .t7, .u1, .ie]) ∧
      Blames text 6 "Fingerprint box".toList
        (.incomplete 6 "box" [.ops, .win, .ecn, .t2, .t3, .t4, .t5, .t6, .t7, .u1, .ie]) := by
  generalize htext :
    "CPE x\nMatchPoints\nT1(R=30)\n\nT1()\nFingerprint box \n# note\nSEQ()\n\nT1()" = text
  have hfault : (ofText "" text).outcome =
      .error (.incomplete 6 "box" [.ops, .win, .ecn, .t2, .t3, .t4, .t5, .t6, .t7, .u1, .ie]) := by
    rw [← htext]
    decide +kernel
  obtain ⟨n, raw, hline, -, -, hraw, hblames⟩ := ofText_blames hfault (by simp)
  obtain rfl : 6 = n := Option.some.inj hline
  have htitle : (lines text.toList)[5]? = some "Fingerprint box ".toList := by
    rw [← htext]
    decide +kernel
  obtain rfl : "Fingerprint box ".toList = raw := Option.some.inj (htitle.symm.trans hraw)
  exact ⟨text, rfl, hfault, hblames⟩

end Database

end OsDetection
