import OsDetection.Database.Reader
import OsDetection.Proofs.Database.Bodies
import OsDetection.Proofs.Database.Lines

/-!
# What a line of a database does

`Reading.Moves` lists everything that a line can do to what is known of a database: one rule for
each kind of line and place, with the conditions under which it applies. It is the outcome of
reading the line (`Reading.outcome_step_eq_ok_iff`), so that a property of databases is shown rule
by rule. The end of the text acts as a blank line outside of the point table, so that a database is
what all lines and one more lead to (`outcome_ofText_eq_ok_iff`).
-/

namespace OsDetection

open OsDetection.Text

/-! ## Records and tables -/

/-- A fingerprint lacks nothing if there is a response for every probe that counts. -/
theorem Fingerprint.missing_eq_nil_iff {f : Fingerprint} :
    f.missing = [] ↔ ∀ p, p ≠ .scan → f.responses.contains p := by
  simp [missing, List.filter_eq_nil_iff, Probe.mem_scored]

namespace Draft

/-- A line that stands in a record, and the record before and after it. -/
inductive Adds (line : Nat) : List Char → Draft → Draft → Prop
  | title (text : List Char) {d : Draft} (unnamed : d.name = none) :
    Adds line ("Fingerprint".toList ++ ' ' :: text) d
      { d with name := some (String.ofList (trim text)), line }
  | classes (text : List Char) (d : Draft) :
    Adds line ("Class".toList ++ ' ' :: text) d { d with classes := String.ofList (trim text) }
  | cpe (text : List Char) (d : Draft) :
    Adds line ("CPE".toList ++ ' ' :: text) d { d with cpe := String.ofList (trim text) }
  | group {d : Draft} {probe : Probe} {body : List Char} {response : Response Pattern}
    (opened : '(' ∉ body) (closed : ')' ∉ body) (new : ¬ d.responses.contains probe)
    (describes : Response.Describes probe body response) :
    Adds line (probe.name.toList ++ '(' :: (body ++ [')'])) d
      { d with responses := d.responses.insert probe response }

/-- A line of a record is not blank. -/
theorem Adds.ne_nil {line : Nat} {cs : List Char} {d d' : Draft} (h : Adds line cs d d') :
    cs ≠ [] := by
  cases h <;> simp

/-- A record that is left without a name keeps its line. -/
theorem Adds.line_eq {line : Nat} {cs : List Char} {d d' : Draft} (h : Adds line cs d d')
    (unnamed : d'.name = none) : d.name = none ∧ d'.line = d.line := by
  cases h with
  | title => cases unnamed
  | classes | cpe | group => exact ⟨unnamed, rfl⟩

/-- A line of a record is neither a comment nor the heading of a point table. -/
theorem Adds.says {line : Nat} {cs : List Char} {d d' : Draft} (h : Adds line cs d d') :
    ∃ kind, Line.Says cs kind ∧ kind ≠ .comment ∧ kind ≠ .pointTable := by
  cases h with
  | title text => exact ⟨_, .title text, nofun, nofun⟩
  | classes text => exact ⟨_, .classes text, nofun, nofun⟩
  | cpe text => exact ⟨_, .cpe text, nofun, nofun⟩
  | @group _ probe _ _ opened closed => exact ⟨_, .ofProbe probe opened closed, nofun, nofun⟩

theorem Adds.ne_comment {line : Nat} {text : List Char} {d d' : Draft} :
    ¬ Adds line ('#' :: text) d d' := by
  intro h
  obtain ⟨kind, hkind, hne, -⟩ := h.says
  exact hne (hkind.unique (.comment text))

theorem Adds.ne_heading {line : Nat} {d d' : Draft} :
    ¬ Adds line "MatchPoints".toList d d' := by
  intro h
  obtain ⟨kind, hkind, -, hne⟩ := h.says
  exact hne (hkind.unique .pointTable)

/-- A record can be closed exactly if it is named and complete. -/
theorem close_eq_ok_iff {d : Draft} {f : Fingerprint} :
    d.close = .ok f ↔
      ∃ name, d.name = some name ∧ f = ⟨name, d.classes, d.cpe, d.line, d.responses⟩ ∧
        ∀ p, p ≠ .scan → d.responses.contains p := by
  unfold close
  split
  · next hname => simp [hname]
  · next name hname =>
    dsimp only
    rw [hname]
    refine ⟨fun h => ?_, fun h => ?_⟩
    · split at h
      · next hmissing =>
        cases h
        exact ⟨name, rfl, rfl, Fingerprint.missing_eq_nil_iff.1 hmissing⟩
      · exact nomatch h
    · obtain ⟨name', hname', rfl, hcomplete⟩ := h
      obtain rfl := Option.some.inj hname'
      rw [if_pos (Fingerprint.missing_eq_nil_iff.2 hcomplete)]

end Draft

/-- A line that stands in the point table, and the table before and after it. -/
inductive PointTable.Adds : List Char → PointTable → PointTable → Prop
  | row {t : PointTable} {probe : Probe} {body : List Char} {row : PointRow}
    (opened : '(' ∉ body) (closed : ')' ∉ body) (scored : probe ≠ .scan)
    (new : ¬ t.contains probe) (describes : PointRow.Describes probe body row) :
    Adds (probe.name.toList ++ '(' :: (body ++ [')'])) t (t.insert probe row)

/-- A row is not blank. -/
theorem PointTable.Adds.ne_nil {cs : List Char} {t t' : PointTable} (h : t.Adds cs t') :
    cs ≠ [] := by
  cases h
  simp

/-- A row is not a comment. -/
theorem PointTable.Adds.ne_comment {text : List Char} {t t' : PointTable} :
    ¬ PointTable.Adds ('#' :: text) t t' := by
  intro h
  generalize hcs : '#' :: text = cs at h
  cases h with
  | @row _ probe _ _ opened closed =>
    have hgroup := Line.Says.ofProbe probe opened closed
    rw [← hcs] at hgroup
    exact nomatch hgroup.unique (.comment text)

namespace Database

namespace Reading

/-! ## Steps -/

/-- A line without its final blanks, and what is known before and after it. -/
inductive Moves (line : Nat) : List Char → Reading → Reading → Prop
  | comment (text : List Char) (r : Reading) : Moves line ('#' :: text) r r
  | heading {r : Reading} (outside : r.table = none) (first : r.points = none) :
    Moves line "MatchPoints".toList r { r with table := some .empty }
  | row {r : Reading} {cs : List Char} {table table' : PointTable} (inside : r.table = some table)
    (adds : table.Adds cs table') : Moves line cs r { r with table := some table' }
  | tableEnd {r : Reading} {table : PointTable} (inside : r.table = some table) :
    Moves line [] r { r with points := some table, table := none }
  | idle {r : Reading} (outside : r.table = none) (absent : r.draft = none) : Moves line [] r r
  | close {r : Reading} {draft : Draft} {f : Fingerprint} (outside : r.table = none)
    (present : r.draft = some draft) (closes : draft.close = .ok f) :
    Moves line [] r { r with fingerprints := r.fingerprints.push f, draft := none }
  | extend {r : Reading} {cs : List Char} {draft : Draft} (outside : r.table = none)
    (adds : (r.draftAt line).Adds line cs draft) : Moves line cs r { r with draft := some draft }

section
variable {source content : String} {line : Nat} {cs : List Char} {r r' : Reading}

/-- Outside of the point table a blank line closes the record, if there is one. -/
theorem moves_nil_iff (outside : r.table = none) :
    Moves line [] r r' ↔
      r.draft = none ∧ r' = r ∨
      ∃ d f, r.draft = some d ∧ d.close = .ok f ∧
        r' = { r with fingerprints := r.fingerprints.push f, draft := none } := by
  refine ⟨fun h => ?_, fun h => ?_⟩
  · generalize hcs : ([] : List Char) = cs at h
    cases h with
    | comment | heading => exact nomatch hcs
    | row inside | tableEnd inside => exact nomatch outside.symm.trans inside
    | idle _ absent => exact .inl ⟨absent, rfl⟩
    | close _ present closes => exact .inr ⟨_, _, present, closes, rfl⟩
    | extend _ adds => exact absurd hcs.symm adds.ne_nil
  · obtain ⟨absent, rfl⟩ | ⟨d, f, present, closes, rfl⟩ := h
    · exact .idle outside absent
    · exact .close outside present closes

/-- The record is closed as a blank line closes it. -/
theorem outcome_closeDraft_eq_ok_iff (line : Nat) (outside : r.table = none) :
    r.closeDraft.outcome = .ok r' ↔ Moves line [] r r' := by
  rw [moves_nil_iff outside]
  unfold closeDraft
  cases hd : r.draft with
  | none => simp [eq_comm]
  | some d =>
    simp only [Logged.outcome_bind_eq_ok_iff]
    refine ⟨fun h => ?_, fun h => ?_⟩
    · obtain ⟨f, hclose, _, -, hr⟩ := h
      cases hr
      exact .inr ⟨d, f, rfl, hclose, rfl⟩
    · obtain ⟨habsent, -⟩ | ⟨_, f, hpresent, hclose, rfl⟩ := h
      · exact nomatch habsent
      · cases hpresent
        exact ⟨f, hclose, (), rfl, rfl⟩

/-- A group is added to the record exactly if its probe exists and is new there, and its body is
accepted. -/
theorem outcome_addGroup_eq_ok_iff {name body : List Char} :
    (addGroup source r line content name body).outcome = .ok r' ↔
      ∃ probe response, probe.name.toList = name ∧ ¬ (r.draftAt line).responses.contains probe ∧
        Response.Describes probe body response ∧
        r' = { r with draft := some { r.draftAt line with
          responses := (r.draftAt line).responses.insert probe response } } := by
  unfold addGroup
  refine ⟨fun h => ?_, fun h => ?_⟩
  · split at h
    · exact nomatch h
    · next probe hprobe =>
      dsimp only at h
      split at h
      · exact nomatch h
      · next hnew =>
        obtain ⟨response, hresponse, h⟩ := Logged.outcome_bind_eq_ok_iff.1 h
        cases h
        refine ⟨probe, response, ?_, hnew, Response.outcome_ofBody_eq_ok_iff.1 hresponse, rfl⟩
        rw [Probe.ofName?_eq_some_iff.1 hprobe, String.toList_ofList]
  · obtain ⟨probe, response, rfl, hnew, hresponse, rfl⟩ := h
    rw [String.ofList_toList, Probe.ofName?_name]
    dsimp only
    rw [if_neg hnew, Logged.outcome_bind, Response.outcome_ofBody_eq_ok_iff.2 hresponse]
    rfl

/-- A row is added to the table exactly if its probe exists, counts and is new there, and its body
is accepted. -/
theorem addRow_eq_ok_iff {table : PointTable} {name body : List Char} :
    addRow r table line content name body = .ok r' ↔
      ∃ probe row, probe.name.toList = name ∧ probe ≠ .scan ∧ ¬ table.contains probe ∧
        PointRow.Describes probe body row ∧
        r' = { r with table := some (table.insert probe row) } := by
  unfold addRow
  refine ⟨fun h => ?_, fun h => ?_⟩
  · split at h
    · exact nomatch h
    · next probe hprobe =>
      split at h
      · exact nomatch h
      · next hscored =>
        obtain ⟨row, hrow, h⟩ := bind_eq_ok_iff.1 h
        split at h
        · exact nomatch h
        · next hnew =>
          cases h
          refine ⟨probe, row, ?_, mt Probe.isInformational_iff.2 hscored, hnew,
            PointRow.ofBody_eq_ok_iff.1 hrow, rfl⟩
          rw [Probe.ofName?_eq_some_iff.1 hprobe, String.toList_ofList]
  · obtain ⟨probe, row, rfl, hscored, hnew, hrow, rfl⟩ := h
    rw [String.ofList_toList, Probe.ofName?_name]
    dsimp only
    rw [if_neg (mt Probe.isInformational_iff.1 hscored),
      PointRow.ofBody_eq_ok_iff.2 hrow, ok_bind, if_neg hnew]
    rfl

/-- Outside of the point table a line does what one of the rules says. -/
theorem outcome_recordLine_eq_ok_iff (h : r.table = none) :
    (recordLine source r line cs).outcome = .ok r' ↔ Moves line cs r r' := by
  unfold recordLine
  refine ⟨fun hr => ?_, fun hmoves => ?_⟩
  · generalize hline : Line.ofText cs = kind at hr
    by_cases hother : kind = .other
    · rw [hother] at hr
      exact nomatch hr
    · cases (Line.ofText_eq_iff hother).1 hline with
      | blank => exact (outcome_closeDraft_eq_ok_iff line h).1 hr
      | comment text =>
        cases hr
        exact .comment text r
      | pointTable =>
        dsimp only at hr
        split at hr
        · exact nomatch hr
        · next hfirst =>
          cases hr
          exact .heading h hfirst
      | title text =>
        simp only [addTitle] at hr
        split at hr
        · exact nomatch hr
        · next hunnamed =>
          cases hr
          exact .extend h (.title text hunnamed)
      | classes text =>
        cases hr
        exact .extend h (.classes text _)
      | cpe text =>
        cases hr
        exact .extend h (.cpe text _)
      | group _ _ opened closed =>
        obtain ⟨probe, response, rfl, hnew, hdescribes, rfl⟩ := outcome_addGroup_eq_ok_iff.1 hr
        exact .extend h (.group opened closed hnew hdescribes)
  · cases hmoves with
    | comment text => rw [(Line.Says.comment text).ofText_eq]; rfl
    | heading outside first =>
      rw [Line.Says.pointTable.ofText_eq]
      simp [first]
    | row inside | tableEnd inside => rw [h] at inside; exact nomatch inside
    | idle outside absent =>
      exact (outcome_closeDraft_eq_ok_iff line h).2 (.idle outside absent)
    | close outside present closes =>
      exact (outcome_closeDraft_eq_ok_iff line h).2 (.close outside present closes)
    | extend outside adds =>
      cases adds with
      | title text unnamed =>
        rw [(Line.Says.title text).ofText_eq]
        simp [addTitle, unnamed]
      | classes text => rw [(Line.Says.classes text).ofText_eq]; rfl
      | cpe text => rw [(Line.Says.cpe text).ofText_eq]; rfl
      | @group _ probe _ response opened closed new describes =>
        rw [(Line.Says.ofProbe probe opened closed).ofText_eq]
        exact outcome_addGroup_eq_ok_iff.2 ⟨probe, response, rfl, new, describes, rfl⟩

/-- Inside the point table a line does what one of the rules says. -/
theorem outcome_tableLine_eq_ok_iff {table : PointTable} (h : r.table = some table) :
    (r.tableLine table line cs).outcome = .ok r' ↔ Moves line cs r r' := by
  unfold tableLine
  refine ⟨fun hr => ?_, fun hmoves => ?_⟩
  · generalize hline : Line.ofText cs = kind at hr
    by_cases hother : kind = .other
    · rw [hother] at hr
      exact nomatch hr
    · cases (Line.ofText_eq_iff hother).1 hline with
      | pointTable | title | classes | cpe => exact nomatch hr
      | blank =>
        cases hr
        exact .tableEnd h
      | comment text =>
        cases hr
        exact .comment text r
      | group _ _ opened closed =>
        obtain ⟨probe, row, rfl, hscored, hnew, hdescribes, rfl⟩ := addRow_eq_ok_iff.1 hr
        exact .row h (.row opened closed hscored hnew hdescribes)
  · cases hmoves with
    | comment text => rw [(Line.Says.comment text).ofText_eq]; rfl
    | heading outside | idle outside | close outside | extend outside =>
      rw [h] at outside
      exact nomatch outside
    | row inside adds =>
      obtain rfl := Option.some.inj (h.symm.trans inside)
      cases adds with
      | @row _ probe _ row opened closed scored new describes =>
        rw [(Line.Says.ofProbe probe opened closed).ofText_eq]
        exact addRow_eq_ok_iff.2 ⟨probe, row, rfl, scored, new, describes, rfl⟩
    | tableEnd inside =>
      obtain rfl := Option.some.inj (h.symm.trans inside)
      rw [Line.Says.blank.ofText_eq]
      rfl

/-- A line is read without a fault exactly if one of the rules applies, and does what it says. -/
theorem outcome_step_eq_ok_iff {line : List Char × Nat} :
    (step source r line).outcome = .ok r' ↔ Moves line.2 (trimEnd line.1) r r' := by
  unfold step
  split
  · next htable => exact outcome_tableLine_eq_ok_iff htable
  · next htable => exact outcome_recordLine_eq_ok_iff htable

/-- A line does one thing only. -/
theorem Moves.unique {r₁ r₂ : Reading} (h₁ : Moves line cs r r₁) (h₂ : Moves line cs r r₂) :
    r₁ = r₂ := by
  cases htable : r.table with
  | none =>
    rw [← @outcome_recordLine_eq_ok_iff "" _ _ _ _ htable] at h₁ h₂
    exact Except.ok.inj (h₁.symm.trans h₂)
  | some table =>
    rw [← outcome_tableLine_eq_ok_iff htable] at h₁ h₂
    exact Except.ok.inj (h₁.symm.trans h₂)

/-- The end of the text acts as a blank line outside of the point table, after which there has to be
a point table. -/
theorem outcome_finish_eq_ok_iff {d : Database} :
    (r.finish source line).outcome = .ok d ↔
      r.table = none ∧ ∃ r', Moves line [] r r' ∧ r'.points = some d.points ∧
        r'.fingerprints.toList = d.fingerprints := by
  unfold finish
  refine ⟨fun h => ?_, fun h => ?_⟩
  · split at h
    · exact nomatch h
    · next htable =>
      obtain ⟨r', hclose, h⟩ := Logged.outcome_bind_eq_ok_iff.1 h
      split at h
      · exact nomatch h
      · next points hpoints =>
        cases h
        exact ⟨htable, r', (outcome_closeDraft_eq_ok_iff line htable).1 hclose, hpoints, rfl⟩
  · obtain ⟨htable, r', hmoves, hpoints, hfingerprints⟩ := h
    have hclose := (outcome_closeDraft_eq_ok_iff line htable).2 hmoves
    simp [htable, hclose, hpoints, hfingerprints, Except.map]

/-- Outside of the point table there is no record after a blank line. -/
theorem Moves.draft_eq_none (h : Moves line [] r r') (outside : r.table = none) :
    r'.draft = none := by
  rcases (moves_nil_iff outside).1 h with ⟨absent, rfl⟩ | ⟨d, f, -, -, rfl⟩
  · exact absent
  · rfl

/-! ## Runs -/

/-- Numbered lines without their final blanks, and what is known before and after them. -/
inductive Runs : List (List Char × Nat) → Reading → Reading → Prop
  | nil (r : Reading) : Runs [] r r
  | cons {line : List Char × Nat} {ls : List (List Char × Nat)} {r m r' : Reading}
    (moves : Moves line.2 line.1 r m) (rest : Runs ls m r') : Runs (line :: ls) r r'

theorem runs_nil_iff : Runs [] r r' ↔ r' = r := by
  refine ⟨fun h => ?_, fun h => ?_⟩
  · cases h
    rfl
  · obtain rfl := h
    exact .nil r'

theorem runs_cons_iff {line : List Char × Nat} {ls : List (List Char × Nat)} :
    Runs (line :: ls) r r' ↔ ∃ m, Moves line.2 line.1 r m ∧ Runs ls m r' := by
  refine ⟨fun h => ?_, fun h => ?_⟩
  · cases h with
    | cons moves rest => exact ⟨_, moves, rest⟩
  · obtain ⟨m, moves, rest⟩ := h
    exact .cons moves rest

/-- Lines can be read in two parts. -/
theorem runs_append_iff {ls ls' : List (List Char × Nat)} :
    Runs (ls ++ ls') r r' ↔ ∃ m, Runs ls r m ∧ Runs ls' m r' := by
  induction ls generalizing r with
  | nil => simp [runs_nil_iff]
  | cons line ls ih =>
    simp only [List.cons_append, runs_cons_iff, ih]
    refine ⟨fun h => ?_, fun h => ?_⟩
    · obtain ⟨m, hm, m', hm', h⟩ := h
      exact ⟨m', ⟨m, hm, hm'⟩, h⟩
    · obtain ⟨m', ⟨m, hm, hm'⟩, h⟩ := h
      exact ⟨m, hm, m', hm', h⟩

/-- The last line is read after the others. -/
theorem runs_concat_iff {line : List Char × Nat} {ls : List (List Char × Nat)} :
    Runs (ls ++ [line]) r r' ↔ ∃ m, Runs ls r m ∧ Moves line.2 line.1 m r' := by
  simp [runs_append_iff, runs_cons_iff, runs_nil_iff]

/-- Lines lead to one reading only. -/
theorem Runs.unique {ls : List (List Char × Nat)} {r₁ r₂ : Reading} (h₁ : Runs ls r r₁)
    (h₂ : Runs ls r r₂) : r₁ = r₂ := by
  induction h₁ with
  | nil => exact (runs_nil_iff.1 h₂).symm
  | cons moves _ ih =>
    obtain ⟨m, hm, hrest⟩ := runs_cons_iff.1 h₂
    obtain rfl := moves.unique hm
    exact ih hrest

/-- Lines are read without a fault exactly if a rule applies to each in turn. -/
theorem outcome_foldl_step_eq_ok_iff {ls : List (List Char × Nat)} :
    (Logged.foldl (step source) r ls).outcome = .ok r' ↔
      Runs (ls.map fun line => (trimEnd line.1, line.2)) r r' := by
  induction ls generalizing r with
  | nil => simp [runs_nil_iff, eq_comm]
  | cons line ls ih =>
    rw [Logged.foldl_cons, Logged.outcome_bind_eq_ok_iff, List.map_cons, runs_cons_iff]
    simp only [outcome_step_eq_ok_iff, ih]

end

end Reading

/-- The lines of a text without their final blanks, each with its number. -/
def numberedLines (first : Nat) (text : String) : List (List Char × Nat) :=
  ((lines text.toList).zipIdx first).map fun line => (trimEnd line.1, line.2)

/-- The lines of a text are numbered in order. -/
theorem pairwise_numberedLines (first : Nat) (text : String) :
    (numberedLines first text).Pairwise (·.2 < ·.2) := by
  rw [numberedLines, List.pairwise_map]
  dsimp only
  rw [← List.pairwise_map, List.zipIdx_map_snd]
  exact List.pairwise_lt_range'

/-- Lines are a database exactly if all of them and one blank line more are read without a fault,
and there is a point table after them. -/
theorem outcome_ofLines_eq_ok_iff {source : String} {ls : List (List Char)} {d : Database} :
    (ofLines source ls).outcome = .ok d ↔
      ∃ r, Reading.Runs ((ls.zipIdx 1).map fun line => (trimEnd line.1, line.2)) .start r ∧
        r.table = none ∧ ∃ r', Reading.Moves ls.length [] r r' ∧ r'.points = some d.points ∧
          r'.fingerprints.toList = d.fingerprints := by
  unfold ofLines
  simp only [Logged.outcome_bind_eq_ok_iff, Reading.outcome_foldl_step_eq_ok_iff,
    Reading.outcome_finish_eq_ok_iff]

/-- So a text is a database exactly if its lines are. -/
theorem outcome_ofText_eq_ok_iff {source text : String} {d : Database} :
    (ofText source text).outcome = .ok d ↔
      ∃ r, Reading.Runs (numberedLines 1 text) .start r ∧ r.table = none ∧
        ∃ r', Reading.Moves (lines text.toList).length [] r r' ∧ r'.points = some d.points ∧
          r'.fingerprints.toList = d.fingerprints :=
  outcome_ofLines_eq_ok_iff

/-! ## Titles -/

/-- The number of a line and the name that it gives to a fingerprint, if it gives one. -/
def title? (line : List Char × Nat) : Option (Nat × String) :=
  (Line.keyed? "Fingerprint" line.1).map fun text => (line.2, String.ofList (trim text))

/-- A line that names a fingerprint gives its number and the name without blanks around it. -/
theorem title?_title (text : List Char) (n : Nat) :
    title? ("Fingerprint".toList ++ ' ' :: text, n) = some (n, String.ofList (trim text)) := by
  rw [title?, Line.keyed?_eq_some_iff.2 rfl, Option.map_some]

/-- Only a title gives a name. -/
theorem says_of_title? {line : List Char × Nat} {n : Nat} {name : String}
    (h : title? line = some (n, name)) : line.2 = n ∧ Line.Says line.1 (.title name) := by
  obtain ⟨text, hkeyed, heq⟩ := Option.map_eq_some_iff.1 h
  cases heq
  rw [Line.keyed?_eq_some_iff.1 hkeyed]
  exact ⟨rfl, .title text⟩

/-- A line of another kind does not name a fingerprint. -/
theorem title?_eq_none {cs : List Char} {n : Nat} {line : Line} (h : Line.Says cs line)
    (hline : ∀ name, line ≠ .title name) : title? (cs, n) = none := by
  rw [title?, h.keyed?_fingerprint hline, Option.map_none]

end Database

/-- The line and the name of a record, if it has a name. -/
def Draft.titles (d : Draft) : List (Nat × String) :=
  d.name.toList.map fun name => (d.line, name)

/-- What the last element of a list gives comes last. -/
theorem filterMap_concat {α β : Type} (f : α → Option β) (as : List α) (a : α) :
    (as ++ [a]).filterMap f = as.filterMap f ++ (f a).toList := by
  cases h : f a <;> simp [h]

end OsDetection
