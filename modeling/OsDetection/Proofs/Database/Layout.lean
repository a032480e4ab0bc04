import OsDetection.Database.Reader
import OsDetection.Proofs.Database.Lines
import OsDetection.Proofs.Renumbering

/-!
# The layout of a database

What a database says depends neither on the blanks at the ends of its lines nor on its comments. The
blanks are cut off before a line is looked at (`ofLines_map_trimEnd`). A comment does nothing, but
the lines after it have higher numbers; so everything that is known of a database is compared
without these numbers (`Reading.unnumbered`), and each line is read alike whatever its number is
(`Reading.unnumbered_step`). `ofText_up_to_layout` puts both together.
-/

namespace OsDetection

open OsDetection.Text

/-! ## Bodies of groups and rows -/

/-- Entries are read alike on every line. -/
theorem Response.unnumbered_mapM_entryOfText (line line' : Nat) (pieces : List (List Char)) :
    (pieces.mapM (entryOfText line)).mapError Fault.unnumbered =
      (pieces.mapM (entryOfText line')).mapError Fault.unnumbered := by
  have hentry (cs : List Char) : (entryOfText line cs).mapError Fault.unnumbered =
      (entryOfText line' cs).mapError Fault.unnumbered := by
    unfold entryOfText
    cases Entry.ofText cs <;> rfl
  induction pieces with
  | nil => rfl
  | cons piece pieces ih =>
    rw [List.mapM_cons, List.mapM_cons]
    refine mapError_unnumbered_bind (hentry piece) fun entry => ?_
    exact mapError_unnumbered_bind ih fun entries => rfl

/-- A test gets its pattern alike on every line. -/
theorem Response.unnumbered_define (source : String) (line line' : Nat) (probe : Probe)
    (tests : TestMap Pattern) (pair : String × Pattern) :
    (define source line probe tests pair).unnumbered id =
      (define source line' probe tests pair).unnumbered id := by
  unfold define
  split
  · split <;> rfl
  · rfl

/-- A body is read alike on every line. -/
theorem Response.unnumbered_ofBody (source : String) (line line' : Nat) (content : String)
    (probe : Probe) (body : List Char) :
    (ofBody source line content probe body).unnumbered id =
      (ofBody source line' content probe body).unnumbered id := by
  unfold ofBody
  split
  · rfl
  · have hentries := unnumbered_mapM_entryOfText line line' (split '%' body)
    refine @Logged.unnumbered_bind _ _ _ _ id _ _ _ _ _
      (Logged.ext rfl (congrArg (Except.map id) hentries)) fun entries entries' h => ?_
    obtain rfl : entries = entries' := h
    unfold ofEntries
    split
    · split <;> rfl
    · have hpairs := @Logged.unnumbered_foldl _ _ _ _ id (define source line probe)
        (define source line' probe) (fun _ => true) id (by simp) (fun tests tests' pair h => by
          obtain rfl : tests = tests' := h
          exact unnumbered_define ..) ∅ ∅ rfl (entries.flatMap (·.pairs))
      rw [List.filter_true, List.map_id] at hpairs
      refine Logged.unnumbered_bind hpairs fun tests tests' h => ?_
      obtain rfl : tests = tests' := h
      rfl

/-- A row is read alike on every line. -/
theorem PointRow.unnumbered_ofBody (line line' : Nat) (content : String) (probe : Probe)
    (body : List Char) :
    (ofBody line content probe body).mapError Fault.unnumbered =
      (ofBody line' content probe body).mapError Fault.unnumbered := by
  have hentry (row : PointRow) (entry : List Char) :
      (addEntry line content probe row entry).mapError Fault.unnumbered =
        (addEntry line' content probe row entry).mapError Fault.unnumbered := by
    unfold addEntry
    split
    · rfl
    · dsimp only
      split
      · split
        · rfl
        · split <;> rfl
      · rfl
  unfold ofBody
  generalize (∅ : PointRow) = row
  induction split '%' body generalizing row with
  | nil => rfl
  | cons entry entries ih =>
    rw [List.foldlM_cons, List.foldlM_cons]
    exact mapError_unnumbered_bind (hentry row entry) ih

/-! ## Lines -/

/-- A fingerprint without the line of its name. -/
def Fingerprint.unnumbered (f : Fingerprint) : Fingerprint := { f with line := 0 }

@[simp] theorem Fingerprint.unnumbered_unnumbered (f : Fingerprint) :
    f.unnumbered.unnumbered = f.unnumbered := rfl

/-- A record that is being read, without its line. -/
def Draft.unnumbered (d : Draft) : Draft := { d with line := 0 }

/-- A record is closed alike on every line. -/
theorem Draft.unnumbered_close (d : Draft) :
    (d.unnumbered.close.mapError Fault.unnumbered).map Fingerprint.unnumbered =
      (d.close.mapError Fault.unnumbered).map Fingerprint.unnumbered := by
  obtain ⟨name, classes, cpe, line, responses⟩ := d
  cases name with
  | none => rfl
  | some name =>
    unfold close unnumbered Fingerprint.missing
    by_cases h : (Probe.scored.filter fun p => !responses.contains p) = []
    · simp only [h]
      rfl
    · simp only [h]
      rfl

namespace Database

/-- A database without the lines of its fingerprints. -/
def unnumbered (d : Database) : Database :=
  { d with fingerprints := d.fingerprints.map (·.unnumbered) }

namespace Reading

/-- What is known between two lines of a database, without their numbers. -/
def unnumbered (r : Reading) : Reading :=
  { r with fingerprints := r.fingerprints.map (·.unnumbered), draft := r.draft.map (·.unnumbered) }

variable (r : Reading)

@[simp] theorem unnumbered_draft : r.unnumbered.draft = r.draft.map (·.unnumbered) := rfl

@[simp] theorem unnumbered_points : r.unnumbered.points = r.points := rfl

@[simp] theorem unnumbered_table : r.unnumbered.table = r.table := rfl

theorem draftAt_unnumbered (line : Nat) : r.unnumbered.draftAt 0 = (r.draftAt line).unnumbered := by
  unfold draftAt unnumbered
  cases r.draft <;> rfl

/-- There are no more lines to forget after the first time. -/
@[simp] theorem unnumbered_unnumbered : r.unnumbered.unnumbered = r.unnumbered := by
  simp [unnumbered, Draft.unnumbered, Function.comp_def]

theorem unnumbered_closeDraft :
    r.unnumbered.closeDraft.unnumbered unnumbered = r.closeDraft.unnumbered unnumbered := by
  unfold closeDraft
  cases hdraft : r.draft with
  | none => simp [unnumbered_draft, hdraft]
  | some draft =>
    simp only [unnumbered_draft, hdraft, Option.map_some]
    refine Logged.unnumbered_bind (f := Fingerprint.unnumbered)
      (Logged.ext rfl draft.unnumbered_close) fun f g h => ?_
    have hname : f.unnumbered.name = g.unnumbered.name := congrArg _ h
    have hpush : (r.unnumbered.fingerprints.push f).map Fingerprint.unnumbered =
        (r.fingerprints.push g).map Fingerprint.unnumbered := by
      simp [unnumbered, h, Function.comp_def]
    refine Logged.unnumbered_bind (f := id) (Logged.ext ?_ rfl) fun _ _ _ => ?_
    · exact congrArg (fun name => [Notice.fingerprintRead name 0]) hname
    · exact congrArg (fun fs => pure (⟨fs, none, r.points, r.table⟩ : Reading)) hpush

/-- A record takes the place of the one before alike on every line. -/
theorem unnumbered_extend {d d' : Draft} (h : d.unnumbered = d'.unnumbered) :
    unnumbered { r.unnumbered with draft := some d } = unnumbered { r with draft := some d' } := by
  simp [unnumbered, h, Function.comp_def]

/-- And so does a point table, be it read to its end or not. -/
theorem unnumbered_withTables (points table : Option PointTable) :
    unnumbered { r.unnumbered with points, table } = unnumbered { r with points, table } := by
  simp [unnumbered, Draft.unnumbered, Function.comp_def]

/-- A record is named alike on every line. -/
theorem unnumbered_addTitle (line : Nat) (name : String) :
    (r.unnumbered.addTitle 0 name).unnumbered unnumbered =
      (r.addTitle line name).unnumbered unnumbered := by
  unfold addTitle
  rw [r.draftAt_unnumbered line]
  dsimp only [Draft.unnumbered]
  cases (r.draftAt line).name with
  | none => exact congrArg pure (r.unnumbered_extend rfl)
  | some earlier => rfl

/-- A group is added to a record alike on every line. -/
theorem unnumbered_addGroup (source : String) (line : Nat) (content : String)
    (name body : List Char) :
    (addGroup source r.unnumbered 0 content name body).unnumbered unnumbered =
      (addGroup source r line content name body).unnumbered unnumbered := by
  unfold addGroup
  cases Probe.ofName? (String.ofList name) with
  | none => rfl
  | some probe =>
    rw [r.draftAt_unnumbered line]
    dsimp only [Draft.unnumbered]
    split
    · rfl
    · have hbody := Response.unnumbered_ofBody source 0 line content probe body
      refine Logged.unnumbered_bind hbody fun response response' h => ?_
      obtain rfl : response = response' := h
      exact congrArg pure (r.unnumbered_extend rfl)

/-- A row is added to the point table alike on every line. -/
theorem unnumbered_addRow (table : PointTable) (line : Nat) (content : String)
    (name body : List Char) :
    (Logged.ofExcept (addRow r.unnumbered table 0 content name body)).unnumbered unnumbered =
      (Logged.ofExcept (addRow r table line content name body)).unnumbered unnumbered := by
  unfold addRow
  cases Probe.ofName? (String.ofList name) with
  | none => rfl
  | some probe =>
    dsimp only
    split
    · rfl
    · rw [Logged.ofExcept_bind, Logged.ofExcept_bind]
      have hbody := PointRow.unnumbered_ofBody 0 line content probe body
      refine Logged.unnumbered_bind (f := id) (Logged.ext rfl (congrArg (Except.map id) hbody))
        fun row row' h => ?_
      obtain rfl : row = row' := h
      split
      · rfl
      · exact congrArg pure (r.unnumbered_withTables _ _)

/-- A line outside of the point table is read alike whatever its number is. -/
theorem unnumbered_recordLine (source : String) (line : Nat) (cs : List Char) :
    (recordLine source r.unnumbered 0 cs).unnumbered unnumbered =
      (recordLine source r line cs).unnumbered unnumbered := by
  unfold recordLine
  cases Line.ofText cs with
  | blank => exact r.unnumbered_closeDraft
  | comment => exact congrArg pure r.unnumbered_unnumbered
  | pointTable =>
    dsimp only [unnumbered_points]
    cases r.points with
    | none => exact congrArg pure (r.unnumbered_withTables _ _)
    | some points => rfl
  | title name => exact r.unnumbered_addTitle line name
  | classes text =>
    rw [r.draftAt_unnumbered line]
    exact congrArg pure (r.unnumbered_extend rfl)
  | cpe text =>
    rw [r.draftAt_unnumbered line]
    exact congrArg pure (r.unnumbered_extend rfl)
  | group name body => exact r.unnumbered_addGroup source line _ name body
  | other => rfl

/-- A line of the point table is read alike whatever its number is. -/
theorem unnumbered_tableLine (table : PointTable) (line : Nat) (cs : List Char) :
    (r.unnumbered.tableLine table 0 cs).unnumbered unnumbered =
      (r.tableLine table line cs).unnumbered unnumbered := by
  unfold tableLine
  cases Line.ofText cs with
  | blank =>
    refine Logged.unnumbered_bind (f := id) rfl fun _ _ _ => ?_
    exact congrArg pure (r.unnumbered_withTables _ _)
  | comment => exact congrArg pure r.unnumbered_unnumbered
  | group name body => exact r.unnumbered_addRow table line _ name body
  | pointTable | title | classes | cpe | other => rfl

/-- A line is read alike whatever its number is. -/
theorem unnumbered_step (source : String) (line : List Char × Nat) :
    (step source r.unnumbered (line.1, 0)).unnumbered unnumbered =
      (step source r line).unnumbered unnumbered := by
  unfold step
  rw [unnumbered_table]
  cases r.table with
  | none => exact r.unnumbered_recordLine source line.2 _
  | some table => exact r.unnumbered_tableLine table line.2 _

/-- What readings that agree but for lines know alike of the tables and the fingerprints. -/
theorem of_unnumbered_eq {r s : Reading} (h : r.unnumbered = s.unnumbered) :
    r.table = s.table ∧ r.points = s.points ∧
      r.fingerprints.toList.map (·.unnumbered) = s.fingerprints.toList.map (·.unnumbered) := by
  have htable : r.unnumbered.table = s.unnumbered.table := congrArg _ h
  have hpoints : r.unnumbered.points = s.unnumbered.points := congrArg _ h
  refine ⟨htable, hpoints, ?_⟩
  have hfingerprints : r.unnumbered.fingerprints = s.unnumbered.fingerprints := congrArg _ h
  simpa [unnumbered] using congrArg Array.toList hfingerprints

/-- The end of the text is read alike whatever the number of lines is. -/
theorem unnumbered_finish (source : String) (lineCount : Nat) :
    (finish source 0 r.unnumbered).unnumbered Database.unnumbered =
      (finish source lineCount r).unnumbered Database.unnumbered := by
  unfold finish
  rw [unnumbered_table]
  cases r.table with
  | some table => rfl
  | none =>
    refine Logged.unnumbered_bind r.unnumbered_closeDraft fun m n h => ?_
    obtain ⟨-, hpoints, hfingerprints⟩ := of_unnumbered_eq h
    rw [hpoints]
    cases n.points with
    | none => rfl
    | some points =>
      have hsize : m.fingerprints.size = n.fingerprints.size := by
        simpa using congrArg List.length hfingerprints
      dsimp only
      rw [hsize]
      exact Logged.unnumbered_bind (f := id) rfl fun _ _ _ =>
        congrArg (fun fs => pure (⟨fs, points⟩ : Database)) hfingerprints

end Reading

/-! ## Blanks at the ends of lines -/

/-- A line is read without the blanks that it ends with. -/
theorem Reading.step_trimEnd (source : String) (r : Reading) (line : List Char × Nat) :
    step source r (trimEnd line.1, line.2) = step source r line := by
  unfold step
  rw [trimEnd_trimEnd]

/-- Lines are read without the blanks that they end with. -/
theorem ofLines_map_trimEnd (source : String) (ls : List (List Char)) :
    ofLines source (ls.map trimEnd) = ofLines source ls := by
  have hstep : (fun r line => Reading.step source r (Prod.map trimEnd id line)) =
      Reading.step source := by
    funext r line
    exact r.step_trimEnd source line
  unfold ofLines
  rw [List.length_map, List.zipIdx_map, Logged.foldl_map, hstep]

/-- Lines that differ in the blanks at their ends only. -/
def SameToBlanks (l l' : List Char) : Prop :=
  ∃ shown blanks blanks', l = shown ++ blanks ∧ l' = shown ++ blanks' ∧
    ∀ c ∈ blanks ++ blanks', isBlank c

/-- Such lines are those that are the same without the blanks. -/
theorem sameToBlanks_iff {l l' : List Char} : SameToBlanks l l' ↔ trimEnd l = trimEnd l' := by
  constructor
  · rintro ⟨shown, blanks, blanks', rfl, rfl, hblank⟩
    obtain ⟨hblanks, hblanks'⟩ := List.forall_mem_append.1 hblank
    rw [trimEnd_append hblanks, trimEnd_append hblanks']
  · intro h
    obtain ⟨blanks, hl, hblanks⟩ := exists_eq_trimEnd_append l
    obtain ⟨blanks', hl', hblanks'⟩ := exists_eq_trimEnd_append l'
    exact ⟨trimEnd l, blanks, blanks', hl, h ▸ hl', List.forall_mem_append.2 ⟨hblanks, hblanks'⟩⟩

instance : DecidableRel SameToBlanks := fun _ _ => decidable_of_iff' _ sameToBlanks_iff

/-- Lists of such lines are. -/
theorem map_trimEnd_eq_of_sameToBlanks {ls ls' : List (List Char)}
    (h : List.Forall₂ SameToBlanks ls ls') : ls.map trimEnd = ls'.map trimEnd := by
  have htrimmed := List.forall₂_map_left_iff.2 (List.forall₂_map_right_iff.2
    (h.imp fun _ _ => sameToBlanks_iff.1))
  rwa [List.forall₂_eq_eq_eq] at htrimmed

/-! ## Comments -/

/-- A line that begins with the sign of a comment does nothing. -/
theorem Reading.step_of_comment (source : String) (r : Reading) {line : List Char × Nat}
    (h : line.1.head? = some '#') : step source r line = pure r := by
  obtain ⟨text, htext⟩ := List.head?_eq_some_iff.1 h
  have hkind : Line.ofText (trimEnd line.1) = .comment := by
    rw [htext, trimEnd_cons (by decide)]
    exact (Line.Says.comment _).ofText_eq
  unfold step
  cases r.table with
  | none => simp only [recordLine, hkind]
  | some table => simp only [tableLine, hkind]

/-- The lines that are no comments. -/
def uncommented (ls : List (List Char)) : List (List Char) :=
  ls.filter (·.head? ≠ some '#')

/-- Lines are read as those are that are no comments, up to the line numbers. -/
theorem unnumbered_ofLines (source : String) (ls : List (List Char)) :
    (ofLines source ls).unnumbered unnumbered =
      (Logged.foldl (Reading.step source) .start ((uncommented ls).map (·, 0)) >>=
        fun r => r.finish source 0).unnumbered unnumbered := by
  have hlines : ((ls.zipIdx 1).filter (·.1.head? ≠ some '#')).map (fun line => (line.1, 0)) =
      (uncommented ls).map (·, 0) := by
    have hfst : uncommented ls = ((ls.zipIdx 1).filter (·.1.head? ≠ some '#')).map Prod.fst := by
      conv_lhs => rw [uncommented, ← List.zipIdx_map_fst 1 ls, List.filter_map]
      rfl
    rw [hfst, List.map_map]
    rfl
  have hfold := @Logged.unnumbered_foldl _ _ _ _ Reading.unnumbered (Reading.step source)
    (Reading.step source) (·.1.head? ≠ some '#') (fun line => (line.1, 0))
    (fun r line h => by
      rw [r.step_of_comment source (by simpa using h), Logged.unnumbered_pure])
    (fun r r' line h => by
      rw [← r.unnumbered_step source line, h, r'.unnumbered_step source (line.1, 0)])
    Reading.start Reading.start rfl (ls.zipIdx 1)
  rw [hlines] at hfold
  unfold ofLines
  refine Logged.unnumbered_bind hfold fun r r' h => ?_
  rw [← r.unnumbered_finish, h, r'.unnumbered_finish source 0]

/-! ## Texts -/

/-- **Layout does not matter.** Texts whose lines differ in the blanks at their ends only are read
alike, with the same notices, and line by line. Texts with the same lines, leaving comments aside,
give the same database, or the same fault, but for line numbers. -/
theorem ofText_up_to_layout (source text text' : String) :
    (List.Forall₂ SameToBlanks (lines text.toList) (lines text'.toList) →
        ofText source text = ofText source text') ∧
      (uncommented (lines text.toList) = uncommented (lines text'.toList) →
        (ofText source text).unnumbered unnumbered =
          (ofText source text').unnumbered unnumbered) := by
  unfold ofText
  refine ⟨fun hblanks => ?_, fun hcomments => ?_⟩
  · rw [← ofLines_map_trimEnd source (lines text.toList), map_trimEnd_eq_of_sameToBlanks hblanks,
      ofLines_map_trimEnd]
  · rw [unnumbered_ofLines, hcomments, ← unnumbered_ofLines]

/-- Carriage returns and other blanks at the ends of lines change nothing, comments in the table and
in the record nothing but the record's line. -/
theorem ofText_up_to_layout_returns_and_comments :
    ∃ d, (ofText "" "MatchPoints\nT1(R=30)\n\nFingerprint box\nSEQ()\nOPS()\nWIN()\nECN()\nT1()
T2()\nT3()\nT4()\nT5()\nT6()\nT7()\nU1()\nIE()\n").outcome = .ok d ∧
      (ofText "" "MatchPoints\r\nT1(R=30)\u00a0\n\t\r\nFingerprint box\r\nSEQ()\nOPS()\nWIN()\nECN()
T1()\nT2()\nT3()\nT4()\nT5()\nT6()\nT7()\nU1()\nIE() ").outcome = .ok d ∧
      ∃ d', (ofText "" "MatchPoints\n# R\nT1(R=30)\n\n#\nFingerprint box\n#\nSEQ()\nOPS()\nWIN()
ECN()\nT1()\nT2()\nT3()\nT4()\nT5()\nT6()\nT7()\nU1()\nIE()\n# end").outcome = .ok d' ∧
        d.unnumbered = d'.unnumbered := by
  refine (exists_eq_ok_of_isOk (by decide +kernel)).imp fun d hd => ⟨hd, ?_, ?_⟩
  · refine .trans (congrArg Logged.outcome ?_) hd
    exact ((ofText_up_to_layout "" _ _).1 (by decide +kernel)).symm
  · refine (exists_eq_ok_of_isOk (by decide +kernel)).imp fun d' hd' => ⟨hd', ?_⟩
    exact Logged.eq_of_unnumbered_eq ((ofText_up_to_layout "" _ _).2 (by decide +kernel)) hd hd'

end Database

end OsDetection
