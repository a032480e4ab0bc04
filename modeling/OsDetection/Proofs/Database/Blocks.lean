import OsDetection.Proofs.Database.Records

/-!
# The blocks of a database

Outside of the point table a database is a sequence of records, set apart by blank lines. `blocks`
cuts the lines of a text there, once the comments are gone. Where no line heads a point table, the
lines are read without a fault exactly if each block is a record, and each gives its fingerprint
(`Reading.runs_and_closes_iff`); after the lines of a point table (`TableLines`) such a text is a
database under the same condition.
-/

namespace OsDetection

open OsDetection.Text

namespace Database

/-! ## Cutting lines into blocks -/

/-- Whether a line is a comment. -/
def isComment (line : List Char × Nat) : Bool :=
  line.1.head? = some '#'

theorem isComment_iff {cs : List Char} {n : Nat} :
    isComment (cs, n) ↔ ∃ text, cs = '#' :: text := by
  simp [isComment, List.head?_eq_some_iff]

/-- The lines between blank lines, wherever there are some. -/
def cutAtBlanks (ls : List (List Char × Nat)) : List Block :=
  (ls.splitOnP fun line => line.1 = []).filter fun b => b ≠ []

/-- The blocks of a text without its comments, the first line of the text having a number. -/
def blocks (first : Nat) (text : String) : List Block :=
  cutAtBlanks ((numberedLines first text).filter fun line => !isComment line)

@[simp] theorem cutAtBlanks_nil : cutAtBlanks [] = [] := by
  simp [cutAtBlanks]

section
variable {b : Block}

/-- Lines without a blank one among them are one block, if there are any. -/
theorem cutAtBlanks_eq (h : ∀ line ∈ b, line.1 ≠ []) :
    cutAtBlanks b = if b = [] then [] else [b] := by
  rw [cutAtBlanks, List.splitOnP_eq_singleton (by simpa using h)]
  by_cases hb : b = [] <;> simp [hb]

/-- A blank line ends a block. -/
theorem cutAtBlanks_append_cons (h : ∀ line ∈ b, line.1 ≠ []) (n : Nat)
    (ls : List (List Char × Nat)) :
    cutAtBlanks (b ++ ([], n) :: ls) = (if b = [] then [] else [b]) ++ cutAtBlanks ls := by
  rw [cutAtBlanks, List.splitOnP_append_cons_of_forall_mem (by simpa using h) _ (by simp)]
  by_cases hb : b = [] <;> simp [hb, cutAtBlanks]

end

namespace Reading

variable {r r' : Reading} {cs : List Char} {n : Nat}

/-! ## Lines outside of the point table -/

/-- A comment does nothing. -/
theorem moves_iff_of_isComment (h : isComment (cs, n)) : Moves n cs r r' ↔ r' = r := by
  obtain ⟨text, rfl⟩ := isComment_iff.1 h
  refine ⟨fun hmoves => ?_, fun h => ?_⟩
  · generalize hcs : '#' :: text = cs at hmoves
    cases hmoves with
    | comment => rfl
    | heading | tableEnd | idle | close => exact nomatch hcs
    | row inside adds => exact absurd (hcs ▸ adds) PointTable.Adds.ne_comment
    | extend outside adds => exact absurd (hcs ▸ adds) Draft.Adds.ne_comment
  · obtain rfl := h
    exact .comment text r'

/-- Comments can be left out. -/
theorem runs_filter_iff {ls : List (List Char × Nat)} :
    Runs (ls.filter fun line => !isComment line) r r' ↔ Runs ls r r' := by
  induction ls generalizing r with
  | nil => rfl
  | cons line ls ih =>
    rw [runs_cons_iff]
    by_cases hline : isComment line
    · simp [hline, moves_iff_of_isComment hline, ih]
    · simp [hline, runs_cons_iff, ih]

/-- Without a heading there is no way into the point table. -/
theorem Moves.table_eq_none (h : Moves n cs r r') (hcs : cs ≠ "MatchPoints".toList)
    (outside : r.table = none) : r'.table = none := by
  cases h with
  | comment | idle | close | extend => exact outside
  | heading => exact absurd rfl hcs
  | row inside | tableEnd inside => exact nomatch outside.symm.trans inside

theorem Runs.table_eq_none {ls : List (List Char × Nat)} (h : Runs ls r r')
    (hls : ∀ line ∈ ls, line.1 ≠ "MatchPoints".toList) (outside : r.table = none) :
    r'.table = none := by
  induction h with
  | nil => exact outside
  | cons moves _ ih =>
    exact ih (fun line hline => hls line (by simp [hline]))
      (moves.table_eq_none (hls _ (by simp)) outside)

/-- A line that is neither blank nor a comment nor the heading of a point table. -/
structure Plain (line : List Char × Nat) : Prop where
  visible : line.1 ≠ []
  noComment : ¬ isComment line
  noHeading : line.1 ≠ "MatchPoints".toList

/-- Outside of the point table a plain line is added to the record. -/
theorem moves_iff_adds {line : List Char × Nat} (outside : r.table = none) (h : Plain line) :
    Moves line.2 line.1 r r' ↔
      ∃ d, (r.draftAt line.2).Adds line.2 line.1 d ∧ r' = { r with draft := some d } := by
  obtain ⟨cs, n⟩ := line
  obtain ⟨hvisible, hcomment, hheading⟩ := h
  dsimp only at *
  refine ⟨fun h => ?_, fun h => ?_⟩
  · cases h with
    | comment => exact absurd rfl hcomment
    | heading => exact absurd rfl hheading
    | row inside => exact nomatch outside.symm.trans inside
    | tableEnd | idle | close => exact absurd rfl hvisible
    | extend _ adds => exact ⟨_, adds, rfl⟩
  · obtain ⟨d, hadds, rfl⟩ := h
    exact .extend outside hadds

/-- Plain lines are added to the record in turn. -/
theorem runs_iff_grows {b : Block} {d : Draft} (outside : r.table = none) (hd : r.draft = some d)
    (h : ∀ line ∈ b, Plain line) :
    Runs b r r' ↔ ∃ d', Grows b d d' ∧ r' = { r with draft := some d' } := by
  induction b generalizing r d with
  | nil =>
    rw [runs_nil_iff]
    refine ⟨fun h => ?_, fun h => ?_⟩
    · obtain rfl := h
      exact ⟨d, .nil d, by rw [← hd]⟩
    · obtain ⟨_, hgrows, rfl⟩ := h
      cases hgrows
      rw [← hd]
  | cons line b ih =>
    have hdraft : r.draftAt line.2 = d := by simp [draftAt, hd]
    have hrest : ∀ line ∈ b, Plain line := fun line hline => h line (by simp [hline])
    simp only [runs_cons_iff, moves_iff_adds outside (h line (by simp)), hdraft]
    refine ⟨fun h => ?_, fun h => ?_⟩
    · obtain ⟨_, ⟨m, hm, rfl⟩, hruns⟩ := h
      obtain ⟨d', hd', rfl⟩ := (@ih { r with draft := some m } m outside rfl hrest).1 hruns
      exact ⟨d', .cons hm hd', rfl⟩
    · obtain ⟨d', hgrows, rfl⟩ := h
      cases hgrows with
      | @cons _ _ _ m _ hm hd' =>
        exact ⟨_, ⟨m, hm, rfl⟩,
          (@ih { r with draft := some m } m outside rfl hrest).2 ⟨d', hd', rfl⟩⟩

/-! ## Records in turn -/

/-- What is known once more records are closed. -/
def gain (r : Reading) (fs : List Fingerprint) : Reading :=
  { r with fingerprints := r.fingerprints ++ fs.toArray }

@[simp] theorem gain_nil (r : Reading) : r.gain [] = r := by
  simp [gain]

theorem gain_append (r : Reading) (fs gs : List Fingerprint) :
    r.gain (fs ++ gs) = (r.gain fs).gain gs := by
  simp [gain]

/-- Closing the only record that is open leaves none open, as it was before. -/
theorem gain_singleton (absent : r.draft = none) (f : Fingerprint) :
    r.gain [f] = { r with fingerprints := r.fingerprints.push f, draft := none } := by
  simp [gain, absent]

/-- A block and a blank line after it are read exactly if the block gives a fingerprint, which is
added to the others; without a line between blank ones nothing happens. -/
theorem runs_and_closes_block_iff {b : Block} (outside : r.table = none) (absent : r.draft = none)
    (h : ∀ line ∈ b, Plain line) :
    (∃ m, Runs b r m ∧ Moves n [] m r') ↔
      ∃ fs, List.Forall₂ ReadAs (if b = [] then [] else [b]) fs ∧
        r' = r.gain fs := by
  cases b with
  | nil =>
    refine ⟨fun h => ?_, fun h => ?_⟩
    · obtain ⟨m, hruns, hcloses⟩ := h
      obtain rfl := runs_nil_iff.1 hruns
      rcases (moves_nil_iff outside).1 hcloses with ⟨-, rfl⟩ | ⟨d, f, present, -⟩
      · exact ⟨[], .nil, (gain_nil _).symm⟩
      · exact nomatch absent.symm.trans present
    · obtain ⟨_, hfs, rfl⟩ := h
      cases hfs
      exact ⟨r, .nil r, (moves_nil_iff outside).2 (.inl ⟨absent, gain_nil r⟩)⟩
  | cons line b =>
    have hfirst : r.draftAt line.2 = .start line.2 := by simp [draftAt, absent]
    have hrest : ∀ line ∈ b, Plain line := fun line hline => h line (by simp [hline])
    rw [if_neg (List.cons_ne_nil line b)]
    refine ⟨fun hread => ?_, fun hgain => ?_⟩
    · obtain ⟨m, hruns, hcloses⟩ := hread
      obtain ⟨m, hmoves, hruns⟩ := runs_cons_iff.1 hruns
      obtain ⟨d, hd, rfl⟩ := (moves_iff_adds outside (h line (by simp))).1 hmoves
      obtain ⟨d', hd', rfl⟩ :=
        (@runs_iff_grows { r with draft := some d } _ b d outside rfl hrest).1 hruns
      rcases (@moves_nil_iff n { r with draft := some d' } r' outside).1 hcloses with
        ⟨hnone, -⟩ | ⟨_, f, hsome, hclose, rfl⟩
      · exact nomatch hnone
      · cases hsome
        rw [hfirst] at hd
        exact ⟨[f], .cons ⟨line, d', rfl, .cons hd hd', hclose⟩ .nil,
          (gain_singleton absent f).symm⟩
    · obtain ⟨_, hfs, rfl⟩ := hgain
      cases hfs with
      | @cons _ f _ _ hf hnil =>
        cases hnil
        obtain ⟨_, d', hline, hgrows, hclose⟩ := hf
        cases hline
        cases hgrows with
        | @cons _ _ _ d _ hd hd' =>
          rw [← hfirst] at hd
          have hmoves := (moves_iff_adds outside (h line (by simp))).2 ⟨d, hd, rfl⟩
          have hruns := (@runs_iff_grows { r with draft := some d } _ b d outside rfl hrest).2
            ⟨d', hd', rfl⟩
          refine ⟨{ r with draft := some d' }, .cons hmoves hruns, ?_⟩
          rw [gain_singleton absent]
          exact .close outside rfl hclose

/-- Plain lines, then lines without a comment or a heading among them, and a blank line after them
are read exactly if each block is read as a fingerprint. -/
theorem runs_and_closes_append_iff {b : Block} {ls : List (List Char × Nat)}
    (outside : r.table = none) (absent : r.draft = none) (hb : ∀ line ∈ b, Plain line)
    (hcomment : ∀ line ∈ ls, ¬ isComment line)
    (hheading : ∀ line ∈ ls, line.1 ≠ "MatchPoints".toList) :
    (∃ m, Runs (b ++ ls) r m ∧ Moves n [] m r') ↔
      ∃ fs, List.Forall₂ ReadAs (cutAtBlanks (b ++ ls)) fs ∧
        r' = r.gain fs := by
  induction ls generalizing r b with
  | nil =>
    rw [List.append_nil, cutAtBlanks_eq fun line hline => (hb line hline).visible]
    exact runs_and_closes_block_iff outside absent hb
  | cons line ls ih =>
    have hcomment' : ∀ line ∈ ls, ¬ isComment line := fun l hl => hcomment l (by simp [hl])
    have hheading' : ∀ line ∈ ls, line.1 ≠ "MatchPoints".toList :=
      fun l hl => hheading l (by simp [hl])
    by_cases hline : line.1 = []
    · obtain ⟨cs, k⟩ := line
      obtain rfl : cs = [] := hline
      rw [cutAtBlanks_append_cons fun line hline => (hb line hline).visible]
      refine ⟨fun h => ?_, fun h => ?_⟩
      · obtain ⟨m, hruns, hcloses⟩ := h
        obtain ⟨m₁, hm₁, hruns⟩ := runs_append_iff.1 hruns
        obtain ⟨m₂, hm₂, hruns⟩ := runs_cons_iff.1 hruns
        obtain ⟨fs, hfs, rfl⟩ := (runs_and_closes_block_iff outside absent hb).1 ⟨m₁, hm₁, hm₂⟩
        obtain ⟨gs, hgs, rfl⟩ := (@ih (r.gain fs) [] outside absent nofun hcomment' hheading').1
          ⟨m, hruns, hcloses⟩
        exact ⟨fs ++ gs, forall₂_append_left_iff.2 ⟨fs, gs, rfl, hfs, hgs⟩,
          (gain_append r fs gs).symm⟩
      · obtain ⟨_, hhs, rfl⟩ := h
        obtain ⟨fs, gs, rfl, hfs, hgs⟩ := forall₂_append_left_iff.1 hhs
        obtain ⟨m₁, hm₁, hm₂⟩ :=
          (@runs_and_closes_block_iff _ _ k _ outside absent hb).2 ⟨fs, hfs, rfl⟩
        obtain ⟨m, hruns, hcloses⟩ :=
          (@ih (r.gain fs) [] outside absent nofun hcomment' hheading').2
            ⟨gs, hgs, gain_append r fs gs⟩
        exact ⟨m, runs_append_iff.2 ⟨m₁, hm₁, .cons hm₂ hruns⟩, hcloses⟩
    · have hplain : ∀ l ∈ b ++ [line], Plain l := by
        intro l hl
        rcases List.mem_append.1 hl with hl | hl
        · exact hb l hl
        · obtain rfl := List.mem_singleton.1 hl
          exact ⟨hline, hcomment l (by simp), hheading l (by simp)⟩
      rw [List.append_cons]
      exact ih outside absent hplain hcomment' hheading'

/-- Lines without a heading among them and a blank line after them are read exactly if each block
that is left without the comments is read as a fingerprint. -/
theorem runs_and_closes_iff {ls : List (List Char × Nat)} (outside : r.table = none)
    (absent : r.draft = none) (hheading : ∀ line ∈ ls, line.1 ≠ "MatchPoints".toList) :
    (∃ m, Runs ls r m ∧ Moves n [] m r') ↔
      ∃ fs, List.Forall₂ ReadAs (cutAtBlanks (ls.filter fun line => !isComment line)) fs ∧
        r' = r.gain fs := by
  simp only [← @runs_filter_iff r _ ls]
  refine @runs_and_closes_append_iff r r' n [] _ outside absent nofun ?_ ?_
  · simp
  · exact fun line hline => hheading line (List.mem_filter.1 hline).1

end Reading

/-! ## After a point table -/

/-- Rows of a point table with comments among them, and the table before and after them. -/
inductive Rows : List (List Char) → PointTable → PointTable → Prop
  | nil (t : PointTable) : Rows [] t t
  | comment {raw text : List Char} {rows : List (List Char)} {t t' : PointTable}
    (h : trimEnd raw = '#' :: text) (rest : Rows rows t t') : Rows (raw :: rows) t t'
  | row {raw : List Char} {rows : List (List Char)} {t m t' : PointTable}
    (adds : t.Adds (trimEnd raw) m) (rest : Rows rows m t') : Rows (raw :: rows) t t'

/-- The lines of a point table: a heading, rows with comments among them, and a blank line. -/
structure TableLines (block : List (List Char)) (t : PointTable) : Prop where
  lines : ∀ raw ∈ block, '\n' ∉ raw
  parts : ∃ heading rows last, block = heading :: (rows ++ [last]) ∧
    trimEnd heading = "MatchPoints".toList ∧ Rows rows .empty t ∧ trimEnd last = []

namespace Reading

/-- Rows are read inside the point table. -/
theorem runs_of_rows {rows : List (List Char)} {t t' : PointTable} (h : Rows rows t t')
    {r : Reading} (inside : r.table = some t) (n : Nat) :
    Runs ((rows.zipIdx n).map fun line => (trimEnd line.1, line.2)) r
      { r with table := some t' } := by
  induction h generalizing r n with
  | nil => rw [← inside]; exact .nil r
  | comment hraw _ ih =>
    refine .cons ?_ (ih inside (n + 1))
    dsimp only
    rw [hraw]
    exact .comment _ r
  | @row raw rows t m t' adds _ ih =>
    exact .cons (.row inside adds) (@ih { r with table := some m } rfl (n + 1))

/-- The lines of a point table are read as the table. -/
theorem runs_of_tableLines {block : List (List Char)} {t : PointTable} (h : TableLines block t) :
    Runs ((block.zipIdx 1).map fun line => (trimEnd line.1, line.2)) .start
      { start with points := some t } := by
  obtain ⟨heading, rows, last, rfl, hheading, hrows, hlast⟩ := h.parts
  rw [List.zipIdx_cons, List.zipIdx_append, List.map_cons, List.map_append, runs_cons_iff]
  dsimp only
  rw [hheading]
  refine ⟨{ start with table := some .empty }, .heading rfl rfl, runs_append_iff.2 ⟨_,
    runs_of_rows hrows rfl _, ?_⟩⟩
  refine .cons ?_ (.nil _)
  dsimp only
  rw [hlast]
  exact .tableEnd rfl

end Reading

/-- The numbered lines of a text that begins with whole lines. -/
theorem numberedLines_append {block : List (List Char)} (h : ∀ raw ∈ block, '\n' ∉ raw)
    (n : Nat) (rest : String) :
    numberedLines n (String.ofList (block.flatMap (· ++ ['\n'])) ++ rest) =
      ((block.zipIdx n).map fun line => (trimEnd line.1, line.2)) ++
        numberedLines (n + block.length) rest := by
  rw [numberedLines, String.toList_append, String.toList_ofList, lines_append h, List.zipIdx_append,
    List.map_append, numberedLines]

/-- A text that begins with the lines of a point table is a database exactly if its other lines are
read from there on. -/
theorem outcome_ofText_tableLines {source rest : String} {block : List (List Char)} {t : PointTable}
    (h : TableLines block t) {d : Database} :
    (ofText source (String.ofList (block.flatMap (· ++ ['\n'])) ++ rest)).outcome = .ok d ↔
      ∃ r, Reading.Runs (numberedLines (1 + block.length) rest)
          { Reading.start with points := some t } r ∧
        r.table = none ∧ ∃ r', Reading.Moves (block.length + (lines rest.toList).length) [] r r' ∧
          r'.points = some d.points ∧ r'.fingerprints.toList = d.fingerprints := by
  have hlines : (lines (String.ofList (block.flatMap (· ++ ['\n'])) ++ rest).toList).length =
      block.length + (lines rest.toList).length := by
    rw [String.toList_append, String.toList_ofList, lines_append h.lines, List.length_append]
  rw [outcome_ofText_eq_ok_iff, numberedLines_append h.lines, hlines]
  refine exists_congr fun r => and_congr_left fun _ => ?_
  rw [Reading.runs_append_iff]
  refine ⟨fun hread => ?_, ?_⟩
  · obtain ⟨m, hm, hruns⟩ := hread
    obtain rfl := (Reading.runs_of_tableLines h).unique hm
    exact hruns
  · exact fun hruns => ⟨_, Reading.runs_of_tableLines h, hruns⟩

/-- After the lines of a point table, text without a heading of another is a database exactly if
each of its blocks is a record. The database has that table, and the fingerprint that each block
gives, in order. -/
theorem ofText_of_tableLines (source : String) {rest : String} {block : List (List Char)}
    {t : PointTable} (htable : TableLines block t)
    (hrest : ∀ raw ∈ lines rest.toList, trimEnd raw ≠ "MatchPoints".toList) :
    ((∃ d, (ofText source (String.ofList (block.flatMap (· ++ ['\n'])) ++ rest)).outcome = .ok d) ↔
        ∀ b ∈ blocks (1 + block.length) rest, IsRecord b) ∧
      ∀ d, (ofText source (String.ofList (block.flatMap (· ++ ['\n'])) ++ rest)).outcome = .ok d →
        d.points = t ∧ List.Forall₂ Gives (blocks (1 + block.length) rest) d.fingerprints := by
  have hheading : ∀ line ∈ numberedLines (1 + block.length) rest,
      line.1 ≠ "MatchPoints".toList := by
    simp only [numberedLines, List.mem_map]
    rintro _ ⟨line, hline, rfl⟩
    exact hrest line.1 (List.fst_mem_of_mem_zipIdx hline)
  have hread (d : Database) :
      (ofText source (String.ofList (block.flatMap (· ++ ['\n'])) ++ rest)).outcome = .ok d ↔
        d.points = t ∧ List.Forall₂ ReadAs (blocks (1 + block.length) rest) d.fingerprints := by
    rw [outcome_ofText_tableLines htable]
    refine ⟨fun h => ?_, fun h => ?_⟩
    · obtain ⟨r, hruns, -, r', hmoves, hpoints, hfingerprints⟩ := h
      obtain ⟨fs, hfs, rfl⟩ := (Reading.runs_and_closes_iff rfl rfl hheading).1 ⟨r, hruns, hmoves⟩
      obtain rfl : fs = d.fingerprints := by simpa [Reading.gain, Reading.start] using hfingerprints
      exact ⟨(Option.some.inj hpoints).symm, hfs⟩
    · obtain ⟨hpoints, hfs⟩ := h
      obtain ⟨r, hruns, hmoves⟩ := (@Reading.runs_and_closes_iff
        { Reading.start with points := some t } _ (block.length + (lines rest.toList).length) _
        rfl rfl hheading).2 ⟨d.fingerprints, hfs, rfl⟩
      exact ⟨r, hruns, hruns.table_eq_none hheading rfl, _, hmoves, by simp [Reading.gain, hpoints],
        by simp [Reading.gain, Reading.start]⟩
  constructor
  · calc
      (∃ d, (ofText source (String.ofList (block.flatMap (· ++ ['\n'])) ++ rest)).outcome = .ok d)
      _ ↔ ∃ fs, List.Forall₂ ReadAs (blocks (1 + block.length) rest) fs := by
        simp only [hread]
        refine ⟨fun h => ?_, fun h => ?_⟩
        · obtain ⟨d, -, hfs⟩ := h
          exact ⟨d.fingerprints, hfs⟩
        · obtain ⟨fs, hfs⟩ := h
          exact ⟨⟨fs, t⟩, rfl, hfs⟩
      _ ↔ ∀ b ∈ blocks (1 + block.length) rest, ∃ f, ReadAs b f := exists_forall₂_iff
      _ ↔ ∀ b ∈ blocks (1 + block.length) rest, IsRecord b :=
        forall₂_congr fun b _ =>
          ⟨fun h => h.elim fun _ hf => hf.isRecord_and_gives.1, fun h => h.exists_readAs⟩
  · intro d hd
    obtain ⟨hpoints, hfs⟩ := (hread d).1 hd
    exact ⟨hpoints, hfs.imp fun _ _ h => h.isRecord_and_gives.2⟩

/-- A record whose lines are out of order, with a comment among them. -/
theorem ofText_of_tableLines_single_record :
    ∃ d, (ofText "" (String.ofList (["MatchPoints".toList, "T1(R=30)".toList, []].flatMap
        (· ++ ['\n'])) ++ "\nCPE x\nT1(R=Y|)\n# note\nFingerprint box \nSEQ()\nOPS()\nWIN()\nECN()
T2()\nT3()\nT4()\nT5()\nT6()\nT7()\nU1()\nIE(R=N)")).outcome = .ok d ∧
      d.points = PointTable.empty.insert .t1 (.ofList [("R", (30 : UInt32))]) ∧
      d.fingerprints.map (fun f => [(f.line, f.name)]) = [[(8, "box")]] := by
  have hgives : PointRow.Gives .t1 "R=30".toList ("R", 30) :=
    ⟨"30".toList, by decide, by decide, by decide, by decide +kernel⟩
  have hrow : PointTable.empty.Adds (trimEnd "T1(R=30)".toList)
      (PointTable.empty.insert .t1 (.ofList [("R", (30 : UInt32))])) :=
    @PointTable.Adds.row _ .t1 "R=30".toList _ (by decide) (by decide) (by decide)
      (by decide +kernel) ⟨[("R", 30)], .cons hgives .nil, by decide, rfl⟩
  have htable : TableLines ["MatchPoints".toList, "T1(R=30)".toList, []]
      (PointTable.empty.insert .t1 (.ofList [("R", (30 : UInt32))])) :=
    ⟨by decide, _, [_], _, rfl, by decide, .row hrow (.nil _), rfl⟩
  refine (exists_eq_ok_of_isOk ?_).imp fun d hd => ⟨hd, ?_⟩
  · decide +kernel
  · obtain ⟨hpoints, hgives⟩ := (ofText_of_tableLines "" htable (by decide +kernel)).2 d hd
    have htitles := List.forall₂_map_left_iff.2 (List.forall₂_map_right_iff.2
      (hgives.imp fun _ _ h => h.title))
    rw [List.forall₂_eq_eq_eq] at htitles
    exact ⟨hpoints, htitles.symm.trans (by decide +kernel)⟩

end Database

end OsDetection
