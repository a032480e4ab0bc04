import OsDetection.Proofs.Database.Blocks
import OsDetection.Proofs.Database.Layout
import OsDetection.Proofs.Database.Written

/-!
# Canonical text

Every database that can be written (`Database.Writable`) is what its canonical text is read as
(`Database.ofText_canonicalText`). The rows of the table are read one by one
(`PointTable.tableLines_writtenLines`), and so are the lines of each record
(`Fingerprint.Writable.readAs`); the records follow each other
(`Database.Reading.exists_runs_records`). No line gives a warning (`Database.WrittenLine`), since
only a test that is written twice does.
-/

namespace OsDetection

open OsDetection.Text

/-! ## Lines -/

/-- A text that can stand on a line, behind a keyword. -/
structure Text.OneLine (text : String) : Prop where
  trimmed : trim text.toList = text.toList
  single : '\n' ∉ text.toList

/-- Such a text ends its line, if it is not empty. -/
theorem Text.OneLine.trimEnd_append {text : String} (h : OneLine text) (hne : text ≠ "")
    (cs : List Char) : trimEnd (cs ++ text.toList) = cs ++ text.toList := by
  have htext : trimEnd text.toList = text.toList := by
    rw [← h.trimmed, trim, trimEnd_trimEnd]
  have hchars : text.toList ≠ [] := mt String.toList_eq_nil_iff.1 hne
  have hlast : isBlank (text.toList.getLast hchars) = false := by
    have hblank := isBlank_getLast_trimEnd (htext.symm ▸ hchars : trimEnd text.toList ≠ [])
    simpa only [htext] using hblank
  rw [← List.dropLast_concat_getLast hchars, ← List.append_assoc, trimEnd_concat hlast]

namespace Database

/-- Whether a computation gives no warning. -/
def Quiet {α : Type} (x : Logged Fault α) : Prop := ∀ notice ∈ x.notices, notice.level ≠ .warn

theorem Quiet.bind {α β : Type} {x : Logged Fault α} {f : α → Logged Fault β} (hx : Quiet x)
    (hf : ∀ a, Quiet (f a)) : Quiet (x >>= f) :=
  Logged.forall_notices_bind hx hf

/-- Nothing is said without notices. -/
theorem Quiet.of_notices {α : Type} {x : Logged Fault α} (h : x.notices = []) : Quiet x := by
  simp [Quiet, h]

theorem quiet_note {notice : Notice} (h : notice.level ≠ .warn) :
    Quiet (Logged.note notice) := by
  simpa [Quiet] using h

namespace Reading

variable (r : Reading) {source : String} {n : Nat} {cs : List Char}

theorem quiet_closeDraft : Quiet r.closeDraft := by
  unfold closeDraft
  split
  · exact .of_notices rfl
  · refine .bind (.of_notices rfl) fun _ => .bind (quiet_note ?_) fun _ => .of_notices rfl
    simp [Notice.level]

theorem quiet_addTitle (name : String) : Quiet (r.addTitle n name) := by
  unfold addTitle
  dsimp only
  split <;> exact .of_notices rfl

/-- A group is added quietly if its body is read quietly. -/
theorem quiet_addGroup {content : String} {name body : List Char}
    (h : ∀ probe, Quiet (Response.ofBody source n content probe body)) :
    Quiet (addGroup source r n content name body) := by
  unfold addGroup
  split
  · exact .of_notices rfl
  · dsimp only
    split
    · exact .of_notices rfl
    · exact .bind (h _) fun _ => .of_notices rfl

/-- A line is read quietly, unless it is a group with a body that is not. -/
theorem quiet_step (h : ∀ name body, Line.ofText (trimEnd cs) = .group name body →
    ∀ content probe, Quiet (Response.ofBody source n content probe body)) :
    Quiet (step source r (cs, n)) := by
  unfold step
  split
  · unfold tableLine
    split
    · exact .bind (quiet_note (by simp [Notice.level])) fun _ => .of_notices rfl
    all_goals exact .of_notices rfl
  · unfold recordLine
    split
    · exact r.quiet_closeDraft
    · exact .of_notices rfl
    · split <;> exact .of_notices rfl
    · exact r.quiet_addTitle _
    · exact .of_notices rfl
    · exact .of_notices rfl
    · next hgroup => exact r.quiet_addGroup fun probe => h _ _ hgroup _ probe
    · exact .of_notices rfl

theorem quiet_finish (lineCount : Nat) : Quiet (r.finish source lineCount) := by
  unfold finish
  split
  · exact .of_notices rfl
  · refine .bind r.quiet_closeDraft fun m => ?_
    split
    · exact .of_notices rfl
    · exact .bind (quiet_note (by simp [Notice.level])) fun _ => .of_notices rfl

end Reading

/-- A line as it is written: what it says is all there is on it, and it gives no warning. -/
structure WrittenLine (cs : List Char) : Prop where
  single : '\n' ∉ cs
  trimmed : trimEnd cs = cs
  quiet : ∀ source (r : Reading) n, Quiet (r.step source (cs, n))

/-- A line of another kind than a group is quiet. -/
theorem WrittenLine.of_kind {cs : List Char} {line : Line} (single : '\n' ∉ cs)
    (trimmed : trimEnd cs = cs) (kind : Line.Says cs line)
    (hline : ∀ name body, line ≠ .group name body) : WrittenLine cs := by
  refine ⟨single, trimmed, fun source r n => r.quiet_step fun name body hgroup => ?_⟩
  rw [trimmed, kind.ofText_eq] at hgroup
  exact absurd hgroup (hline name body)

theorem writtenLine_blank : WrittenLine [] :=
  .of_kind (by simp) trimEnd_nil .blank (by simp)

theorem writtenLine_heading : WrittenLine "MatchPoints".toList :=
  .of_kind (by decide) (by decide) .pointTable (by simp)

/-- A keyword and a text are a line as it is written. -/
theorem writtenLine_keyed {key text : String} (hkey : '\n' ∉ key.toList) (h : OneLine text)
    (hne : text ≠ "") {line : Line} (kind : Line.Says (key.toList ++ ' ' :: text.toList) line)
    (hline : ∀ name body, line ≠ .group name body) :
    WrittenLine (key.toList ++ ' ' :: text.toList) := by
  refine .of_kind ?_ ?_ kind hline
  · simp [hkey, h.single]
  · have htrimmed := h.trimEnd_append hne (key.toList ++ [' '])
    rwa [List.append_assoc] at htrimmed

/-- A group whose tests are all different is a line as it is written. -/
theorem writtenLine_group (probe : Probe) {es : List (String × List Char)}
    (hentries : WellSpelled es) (hdistinct : (es.map (·.1)).Nodup) :
    WrittenLine (probe.name.toList ++ '(' :: (bodyText es ++ [')'])) := by
  obtain ⟨opened, closed⟩ := brackets_not_mem_bodyText hentries
  have trimmed := Line.trimEnd_group probe.name.toList (bodyText es)
  refine ⟨?_, trimmed, fun source r n => r.quiet_step fun name body hgroup => ?_⟩
  · have hname := not_mem_of_isAlphanum probe.isAlphanum_name (c := '\n') (by decide)
    have hbody : '\n' ∉ bodyText es := fun hmem => forall_mem_bodyText hentries _ hmem (by simp)
    simp [hname, hbody]
  · rw [trimmed, (Line.Says.ofProbe probe opened closed).ofText_eq] at hgroup
    obtain ⟨rfl, rfl⟩ := Line.group.inj hgroup
    exact fun content probe => .of_notices (Response.notices_ofBody hentries hdistinct)

end Database

/-! ## The point table -/

namespace PointTable

open Database

variable {t : PointTable}

/-- A row of a legal table has tests, and its probe counts and accepts them. -/
theorem Legal.of_mem_toList (h : t.Legal) {entry : Probe × PointRow}
    (hentry : entry ∈ t.rows.toList) :
    entry.1 ≠ .scan ∧ entry.2 ≠ ∅ ∧ ∀ test ∈ entry.2, entry.1.accepts test := by
  have hrow : t.row? entry.1 = some entry.2 :=
    Std.ExtTreeMap.mem_toList_iff_getElem?_eq_some.1 hentry
  refine ⟨fun hscan => ?_, h.nonempty _ _ hrow, fun test => h.accepted _ _ _ hrow⟩
  rw [hscan, h.informational] at hrow
  cases hrow

/-- The lines of a legal table are lines as they are written. -/
theorem Legal.writtenLines (h : t.Legal) : ∀ l ∈ t.writtenLines, WrittenLine l := by
  intro l hl
  simp only [PointTable.writtenLines, List.mem_append, List.mem_cons, List.mem_map,
    List.not_mem_nil, or_false] at hl
  rcases hl with (rfl | ⟨entry, hentry, rfl⟩) | rfl
  · exact writtenLine_heading
  · obtain ⟨-, -, haccepts⟩ := h.of_mem_toList hentry
    rw [PointRow.rowLine_eq]
    exact writtenLine_group _ (PointRow.wellSpelled haccepts) entry.2.nodup_entries
  · exact writtenLine_blank

/-- Rows are read one by one, each as its own, if no probe has two of them. -/
theorem rows_of_rowLines {before rows : List (Probe × PointRow)}
    (hdistinct : ((before ++ rows).map (·.1)).Nodup)
    (hrows : ∀ entry ∈ rows, entry.1 ≠ .scan ∧ entry.2 ≠ ∅ ∧
      ∀ test ∈ entry.2, entry.1.accepts test) :
    Rows (rows.map fun entry => rowLine entry.1 entry.2) ⟨.ofList before⟩
      ⟨.ofList (before ++ rows)⟩ := by
  induction rows generalizing before with
  | nil => exact (List.append_nil before).symm ▸ .nil _
  | cons entry rows ih =>
    obtain ⟨⟨hscored, hne, haccepts⟩, hrows⟩ := List.forall_mem_cons.1 hrows
    obtain ⟨opened, closed⟩ := brackets_not_mem_bodyText (PointRow.wellSpelled haccepts)
    have hnew := contains_ofList_eq_false hdistinct
    rw [List.append_cons] at hdistinct ⊢
    have hadds : Adds (rowLine entry.1 entry.2) ⟨.ofList before⟩ ⟨.ofList (before ++ [entry])⟩ := by
      rw [PointRow.rowLine_eq, ofList_concat]
      exact .row opened closed hscored (by simpa [contains] using hnew)
        (PointRow.describes haccepts hne)
    have htrimmed : trimEnd (rowLine entry.1 entry.2) = rowLine entry.1 entry.2 := by
      rw [PointRow.rowLine_eq]
      exact (writtenLine_group _ (PointRow.wellSpelled haccepts) entry.2.nodup_entries).trimmed
    exact .row (htrimmed.symm ▸ hadds) (ih hdistinct hrows)

/-- The lines of a legal table are read as the table. -/
theorem tableLines_writtenLines (h : t.Legal) : TableLines t.writtenLines t := by
  have hrows := @rows_of_rowLines [] t.rows.toList (nodup_fst_toList t.rows)
    fun entry hentry => h.of_mem_toList hentry
  rw [List.nil_append, ofList_toList] at hrows
  exact ⟨fun l hl => (h.writtenLines l hl).single, _, _, [], rfl, by decide, hrows, trimEnd_nil⟩

end PointTable

/-! ## Records -/

namespace Fingerprint

open Database

/-- A fingerprint that can be written. -/
structure Writable (f : Fingerprint) : Prop where
  named : f.name ≠ ""
  name : OneLine f.name
  classes : OneLine f.classes
  cpe : OneLine f.cpe
  complete : ∀ p, p ≠ .scan → (f.response? p).isSome
  responses : ∀ p r, f.response? p = some r → r.Writable p

variable {f : Fingerprint}

/-- The lines of a fingerprint that can be written are lines as they are written. -/
theorem Writable.writtenLines (h : f.Writable) : ∀ l ∈ f.writtenLines, WrittenLine l := by
  intro l hl
  simp only [Fingerprint.writtenLines, keyedLines, List.mem_append, List.mem_cons, List.mem_map,
    List.not_mem_nil, or_false] at hl
  rcases hl with (((rfl | hl) | hl) | ⟨response, hresponse, rfl⟩) | rfl
  · exact writtenLine_keyed (by decide) h.name h.named (.title _) (by simp)
  · split at hl
    · cases hl
    · next hne =>
      rw [List.mem_singleton.1 hl]
      exact writtenLine_keyed (by decide) h.classes hne (.classes _) (by simp)
  · split at hl
    · cases hl
    · next hne =>
      rw [List.mem_singleton.1 hl]
      exact writtenLine_keyed (by decide) h.cpe hne (.cpe _) (by simp)
  · have hwritable := h.responses _ _ (Std.ExtTreeMap.mem_toList_iff_getElem?_eq_some.1 hresponse)
    rw [Response.responseLine_eq]
    exact writtenLine_group _ hwritable.wellSpelled response.2.nodup_entries
  · exact writtenLine_blank

/-- Responses are read one by one, each as its own, if no probe has two of them. -/
theorem grows_responseLines {before responses : List (Probe × Response Pattern)} {d : Draft}
    (hdistinct : ((before ++ responses).map (·.1)).Nodup)
    (hwritable : ∀ response ∈ responses, response.2.Writable response.1) (n : Nat) :
    Grows ((responses.map fun response => responseLine response.1 response.2).zipIdx n)
      { d with responses := .ofList before }
      { d with responses := .ofList (before ++ responses) } := by
  induction responses generalizing before n with
  | nil => exact (List.append_nil before).symm ▸ .nil _
  | cons response responses ih =>
    obtain ⟨hfirst, hwritable⟩ := List.forall_mem_cons.1 hwritable
    obtain ⟨opened, closed⟩ := brackets_not_mem_bodyText hfirst.wellSpelled
    have hnew := contains_ofList_eq_false hdistinct
    rw [List.append_cons] at hdistinct ⊢
    refine .cons ?_ (ih hdistinct hwritable (n + 1))
    dsimp only
    rw [Response.responseLine_eq, ofList_concat]
    exact .group opened closed (by simpa using hnew) hfirst.describes

/-- A text with a keyword is read as what its line adds, and adds nothing if it is empty. -/
theorem grows_keyedLines {key text : String} {d d' : Draft} {n : Nat}
    (hadds : d.Adds n (key.toList ++ ' ' :: text.toList) d') (hempty : text = "" → d' = d) :
    Grows ((keyedLines key text).zipIdx n) d d' := by
  unfold keyedLines
  split
  · next htext =>
    rw [hempty htext]
    exact .nil d
  · exact .cons hadds (.nil d')

/-- The lines of a record but the blank one. -/
def recordLines (f : Fingerprint) : List (List Char) :=
  ("Fingerprint".toList ++ ' ' :: f.name.toList) :: keyedLines "Class" f.classes ++
    keyedLines "CPE" f.cpe ++
    f.responses.toList.map fun response => responseLine response.1 response.2

theorem writtenLines_eq (f : Fingerprint) : f.writtenLines = f.recordLines ++ [[]] := rfl

/-- The lines of a record are read as the fingerprint, on the line that names it. -/
theorem Writable.readAs (h : f.Writable) (n : Nat) :
    ReadAs (f.recordLines.zipIdx n) { f with line := n } := by
  have htitle : Draft.Adds n ("Fingerprint".toList ++ ' ' :: f.name.toList) (.start n)
      ⟨some f.name, "", "", n, ∅⟩ := by
    have hadds := @Draft.Adds.title n f.name.toList (.start n) rfl
    rwa [h.name.trimmed, String.ofList_toList] at hadds
  have hclasses : Draft.Adds (n + 1) ("Class".toList ++ ' ' :: f.classes.toList)
      ⟨some f.name, "", "", n, ∅⟩ ⟨some f.name, f.classes, "", n, ∅⟩ := by
    have hadds := @Draft.Adds.classes (n + 1) f.classes.toList ⟨some f.name, "", "", n, ∅⟩
    rwa [h.classes.trimmed, String.ofList_toList] at hadds
  have hcpe (k : Nat) : Draft.Adds k ("CPE".toList ++ ' ' :: f.cpe.toList)
      ⟨some f.name, f.classes, "", n, ∅⟩ ⟨some f.name, f.classes, f.cpe, n, ∅⟩ := by
    have hadds := @Draft.Adds.cpe k f.cpe.toList ⟨some f.name, f.classes, "", n, ∅⟩
    rwa [h.cpe.trimmed, String.ofList_toList] at hadds
  have hresponses (k : Nat) : Grows ((f.responses.toList.map fun response =>
      responseLine response.1 response.2).zipIdx k)
      ⟨some f.name, f.classes, f.cpe, n, ∅⟩ ⟨some f.name, f.classes, f.cpe, n, f.responses⟩ := by
    have hgrows := @grows_responseLines [] f.responses.toList ⟨some f.name, f.classes, f.cpe, n, ∅⟩
      (nodup_fst_toList f.responses) (fun response hresponse => h.responses _ _
        (Std.ExtTreeMap.mem_toList_iff_getElem?_eq_some.1 hresponse)) k
    rwa [List.nil_append, ofList_toList, Std.ExtTreeMap.ofList_nil] at hgrows
  refine ⟨_, ⟨some f.name, f.classes, f.cpe, n, f.responses⟩, rfl, ?_, ?_⟩
  · rw [recordLines, List.zipIdx_append, List.zipIdx_append, List.zipIdx_cons]
    have hannotated := grows_keyedLines hclasses fun hempty => by rw [hempty]
    have hidentified (k : Nat) := grows_keyedLines (hcpe k) fun hempty => by rw [hempty]
    exact .append (.append (.cons htitle hannotated) (hidentified _)) (hresponses _)
  · refine Draft.close_eq_ok_iff.2 ⟨f.name, rfl, rfl, fun p hp => ?_⟩
    rw [Std.ExtTreeMap.contains_eq_isSome_getElem?]
    exact h.complete p hp

end Fingerprint

/-! ## Databases -/

namespace Database

/-- A line that was added to a record is neither blank nor a comment nor a heading. -/
theorem Grows.plain {b : Block} {d d' : Draft} (h : Grows b d d') :
    ∀ line ∈ b, Reading.Plain line := by
  induction h with
  | nil => simp
  | @cons line _ _ _ _ adds _ ih =>
    refine List.forall_mem_cons.2 ⟨⟨adds.ne_nil, fun hcomment => ?_, fun hheading => ?_⟩, ih⟩
    · obtain ⟨text, htext⟩ : ∃ text, line.1 = '#' :: text := by
        simpa [isComment, List.head?_eq_some_iff] using hcomment
      exact Draft.Adds.ne_comment (htext ▸ adds)
    · exact Draft.Adds.ne_heading (hheading ▸ adds)

namespace Reading

/-- Records are read one by one, each with its own line. -/
theorem exists_runs_records {fs : List Fingerprint} (h : ∀ f ∈ fs, f.Writable) {r : Reading}
    (outside : r.table = none) (absent : r.draft = none) (n : Nat) :
    ∃ gs, Runs ((fs.flatMap (·.writtenLines)).zipIdx n) r (r.gain gs) ∧
      gs.map (·.unnumbered) = fs.map (·.unnumbered) := by
  induction fs generalizing r n with
  | nil => exact ⟨[], (gain_nil r).symm ▸ .nil r, rfl⟩
  | cons f fs ih =>
    obtain ⟨hf, hfs⟩ := List.forall_mem_cons.1 h
    have hread := hf.readAs n
    have hplain : ∀ line ∈ f.recordLines.zipIdx n, Plain line := by
      obtain ⟨_, _, -, hgrows, -⟩ := hread
      exact hgrows.plain
    obtain ⟨m, hrecord, hclose⟩ := (@runs_and_closes_block_iff r (r.gain [{ f with line := n }])
      (n + f.recordLines.length) _ outside absent hplain).2 ⟨_, .cons hread .nil, rfl⟩
    obtain ⟨gs, hruns, hgs⟩ := @ih hfs (r.gain [{ f with line := n }]) outside absent
      (n + f.writtenLines.length)
    refine ⟨{ f with line := n } :: gs, ?_, ?_⟩
    · rw [List.flatMap_cons, List.zipIdx_append, runs_append_iff]
      rw [← gain_append] at hruns
      refine ⟨r.gain [{ f with line := n }], ?_, hruns⟩
      rw [f.writtenLines_eq, List.zipIdx_append, runs_append_iff]
      exact ⟨m, hrecord, .cons hclose (.nil _)⟩
    · rw [List.map_cons, hgs, List.map_cons]
      rfl

end Reading

/-- A database that can be written. -/
structure Writable (d : Database) : Prop where
  fingerprints : ∀ f ∈ d.fingerprints, f.Writable
  points : d.points.Legal

variable {d : Database}

/-- The lines of a database that can be written are lines as they are written. -/
theorem Writable.writtenLines (h : d.Writable) : ∀ l ∈ d.writtenLines, WrittenLine l := by
  refine List.forall_mem_append.2 ⟨h.points.writtenLines, fun l hl => ?_⟩
  obtain ⟨f, hf, hl⟩ := List.mem_flatMap.1 hl
  exact (h.fingerprints f hf).writtenLines l hl

/-- Written lines are the lines of the text that they make. -/
theorem lines_written {ls : List (List Char)} (h : ∀ l ∈ ls, WrittenLine l) :
    lines (ls.flatMap (· ++ ['\n'])) = ls := by
  have hlines := lines_append (fun l hl => (h l hl).single) []
  rwa [List.append_nil, lines_nil, List.append_nil] at hlines

/-- And they are read as they are. -/
theorem numberedLines_written {ls : List (List Char)} (h : ∀ l ∈ ls, WrittenLine l) (n : Nat) :
    numberedLines n (String.ofList (ls.flatMap (· ++ ['\n']))) = ls.zipIdx n := by
  have htrimmed : ls.map trimEnd = ls := by
    rw [List.map_congr_left fun l hl => (h l hl).trimmed, List.map_id']
  rw [numberedLines, String.toList_ofList, lines_written h]
  conv_rhs => rw [← htrimmed, List.zipIdx_map]
  rfl

/-- The text of a database that can be written is read as its table and, but for their lines, its
fingerprints. -/
theorem Writable.exists_outcome_eq_ok (h : d.Writable) (source : String) :
    ∃ gs, (ofText source d.canonicalText).outcome = .ok ⟨gs, d.points⟩ ∧
      gs.map (·.unnumbered) = d.fingerprints.map (·.unnumbered) := by
  have hrecords : ∀ l ∈ d.fingerprints.flatMap (·.writtenLines), WrittenLine l :=
    (List.forall_mem_append.1 h.writtenLines).2
  obtain ⟨gs, hruns, hgs⟩ := @Reading.exists_runs_records _ h.fingerprints
    { Reading.start with points := some d.points } rfl rfl (1 + d.points.writtenLines.length)
  refine ⟨gs, ?_, hgs⟩
  have htext : d.canonicalText = String.ofList (d.points.writtenLines.flatMap (· ++ ['\n'])) ++
      String.ofList ((d.fingerprints.flatMap (·.writtenLines)).flatMap (· ++ ['\n'])) := by
    rw [← String.ofList_append, ← List.flatMap_append]
    rfl
  rw [htext, outcome_ofText_tableLines (PointTable.tableLines_writtenLines h.points),
    numberedLines_written hrecords]
  exact ⟨_, hruns, rfl, _, .idle rfl rfl, rfl, by simp [Reading.gain, Reading.start]⟩

/-- The text of a database that can be written gives no warning. -/
theorem Writable.quiet (h : d.Writable) (source : String) :
    Quiet (ofText source d.canonicalText) := by
  unfold ofText ofLines canonicalText
  rw [String.toList_ofList, lines_written h.writtenLines]
  refine .bind (Logged.forall_notices_foldl fun line hline r => ?_) fun r => r.quiet_finish _
  exact (h.writtenLines _ (List.fst_mem_of_mem_zipIdx hline)).quiet source r line.2

/-- **Every database that can be written is what its canonical text says.** The text is accepted
without a warning, and gives the same point table and the same fingerprints in order, each with the
number of the line that names it. -/
theorem ofText_canonicalText (h : d.Writable) (source : String) :
    ∃ d', (ofText source d.canonicalText).outcome = .ok d' ∧ d'.unnumbered = d.unnumbered ∧
      d'.fingerprints.map (fun f => (f.line, f.name)) = titles d.canonicalText ∧
      ∀ notice ∈ (ofText source d.canonicalText).notices, notice.level ≠ .warn := by
  obtain ⟨gs, hread, hgs⟩ := h.exists_outcome_eq_ok source
  exact ⟨⟨gs, d.points⟩, hread, congrArg (Database.mk · d.points) hgs, titles_of_ofText hread,
    h.quiet source⟩

/-- A pattern may hold further equals signs, and a name any characters that are no line feeds. -/
theorem ofText_canonicalText_single_record :
    ∃ d d' : Database, d.Writable ∧ d.canonicalText = "MatchPoints\nT1(R=4294967295)\n\n" ++
        "Fingerprint Gerät (7)\nClass x | y\nSEQ()\nOPS()\nWIN()\nECN()\nT1(R=40-FF|>ü=|)\n" ++
        "T2()\nT3()\nT4()\nT5()\nT6()\nT7()\nU1()\nIE()\n\n" ∧
      (ofText "" d.canonicalText).outcome = .ok d' ∧ d'.unnumbered = d.unnumbered ∧
      d'.fingerprints.map (fun f => (f.line, f.name)) = [(4, "Gerät (7)")] := by
  let pattern : Pattern :=
    ⟨"40-FF|>ü=|", [.range 64 255, .beyond .after "ü=", .empty], by decide +kernel⟩
  let answer : Response Pattern := .answered (.ofList [("R", pattern)])
  let responses : List (Probe × Response Pattern) :=
    (.t1, answer) :: (Probe.scored.filter (· ≠ .t1)).map (·, .silent)
  let row : PointRow := .ofList [("R", (4294967295 : UInt32))]
  let table : PointTable := PointTable.empty.insert .t1 row
  let box : Fingerprint := ⟨"Gerät (7)", "x | y", "", 0, .ofList responses⟩
  have htable : table.Legal := by
    have hrow {p : Probe} {row' : PointRow} (h : table.row? p = some row') :
        p = .t1 ∧ row' = row := by
      rw [PointTable.row?_insert, PointTable.row?_empty] at h
      split at h
      · next hp => exact ⟨hp.symm, (Option.some.inj h).symm⟩
      · cases h
    refine ⟨by decide +kernel, fun p row' h => ?_, fun p row' test h htest => ?_⟩
    · rw [(hrow h).2]
      decide +kernel
    · rw [(hrow h).2] at htest
      obtain rfl : "R" = test := by simpa [row] using htest
      rw [(hrow h).1]
      decide
  have hanswer : answer.Writable .t1 := by
    have hget {test : String} {pattern' : Pattern} (h : answer.get? test = some pattern') :
        test = "R" ∧ pattern' = pattern := by
      simpa using mem_of_getElem?_ofList h
    refine ⟨⟨fun tests h => ?_, fun test pattern' h => ?_, fun _ pattern' _ =>
      pattern'.ofText_source⟩, fun test pattern' h => ?_, fun pattern' h => ?_⟩
    · rw [← Response.answered.inj h]
      simp
    · rw [(hget h).1]
      decide
    · rw [(hget h).2]
      simp [Unreserved, pattern]
    · rw [(hget h).2]
      decide
  have hbox : box.Writable := by
    refine ⟨by decide, ⟨by decide, by decide⟩, ⟨by decide, by decide⟩, ⟨by decide, by decide⟩,
      fun p hp => ?_, fun p r h => ?_⟩
    · have hall : ∀ p ∈ Probe.scored, (box.response? p).isSome := by decide +kernel
      exact hall p (Probe.mem_scored.2 hp)
    · have hmem : (p, r) ∈ responses := mem_of_getElem?_ofList h
      rcases List.mem_cons.1 hmem with hfirst | hrest
      · cases hfirst
        exact hanswer
      · obtain ⟨_, -, hsilent⟩ := List.mem_map.1 hrest
        cases hsilent
        exact Response.writable_silent p
  have hwritable : Writable ⟨[box], table⟩ := ⟨by simpa using hbox, htable⟩
  have htext : canonicalText ⟨[box], table⟩ = "MatchPoints\nT1(R=4294967295)\n\n" ++
      "Fingerprint Gerät (7)\nClass x | y\nSEQ()\nOPS()\nWIN()\nECN()\nT1(R=40-FF|>ü=|)\n" ++
      "T2()\nT3()\nT4()\nT5()\nT6()\nT7()\nU1()\nIE()\n\n" := by decide +kernel
  obtain ⟨d', hread, hsame, htitles, -⟩ := ofText_canonicalText hwritable ""
  exact ⟨⟨[box], table⟩, d', hwritable, htext, hread, hsame, htitles.trans (by decide +kernel)⟩

end Database

end OsDetection
