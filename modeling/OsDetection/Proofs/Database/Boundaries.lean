import OsDetection.Proofs.Database.Blocks

/-!
# Where records end

A blank line ends the record before it, wherever the point table stands, with one exception: the
blank line that ends the point table leaves the record as it is. This module finds the point table
among the lines of an accepted text (`Reading.Around`), and shows that it is as if its lines, the
blank one included, were not there (`Reading.Runs.exists_outside`, `forall₂_readAs_records`). The
lines of the record that is open are then the last block of what was read (`Reading.Opened`). Every
other blank line divides the records, and so does that of a point table which no record is open at
(`blank_lines_end_records`). Without the exception this would be false, since a record may go on
after a point table (`blank_line_inside_record`).
-/

namespace OsDetection

open OsDetection.Text

namespace Database

/-- The lines of a text but those of its point table, from the heading to the next blank line. -/
def outsideTable (ls : List (List Char × Nat)) : List (List Char × Nat) :=
  ls.takeWhile (·.1 ≠ "MatchPoints".toList) ++
    ((ls.dropWhile (·.1 ≠ "MatchPoints".toList)).dropWhile (·.1 ≠ [])).tail

/-- Lines before the heading are outside of the point table. -/
theorem outsideTable_append {before : List (List Char × Nat)}
    (h : ∀ line ∈ before, line.1 ≠ "MatchPoints".toList) (ls : List (List Char × Nat)) :
    outsideTable (before ++ ls) = before ++ outsideTable ls := by
  have hbefore : ∀ line ∈ before, decide (line.1 ≠ "MatchPoints".toList) := fun line hline =>
    decide_eq_true (h line hline)
  rw [outsideTable, List.takeWhile_append_of_pos hbefore, List.dropWhile_append_of_pos hbefore,
    List.append_assoc, outsideTable]

/-- Lines after the first blank one from the heading on are outside of it, too. -/
theorem outsideTable_table {rows : List (List Char × Nat)} (h : ∀ line ∈ rows, line.1 ≠ [])
    (n k : Nat) (after : List (List Char × Nat)) :
    outsideTable (("MatchPoints".toList, n) :: (rows ++ ([], k) :: after)) = after := by
  have hrows : ∀ line ∈ rows, decide (line.1 ≠ []) := fun line hline =>
    decide_eq_true (h line hline)
  rw [outsideTable, List.takeWhile_cons_of_neg (by simp), List.nil_append,
    List.dropWhile_cons_of_neg (by simp), List.dropWhile_cons_of_pos (by simp),
    List.dropWhile_append_of_pos hrows, List.dropWhile_cons_of_neg (by simp), List.tail_cons]

/-- A block has lines before a line and after it. -/
def Block.Spans (b : Block) (n : Nat) : Prop :=
  (∃ line ∈ b, line.2 < n) ∧ ∃ line ∈ b, n < line.2

instance (b : Block) (n : Nat) : Decidable (b.Spans n) :=
  inferInstanceAs (Decidable (_ ∧ _))

namespace Reading

variable {r r' : Reading} {cs : List Char} {n : Nat} {ls : List (List Char × Nat)}

/-! ## Outside of the point table -/

/-- What a line does to the records does not depend on the point table. -/
theorem Moves.withPoints (h : Moves n cs r r') (hcs : cs ≠ "MatchPoints".toList)
    (outside : r.table = none) (points : Option PointTable) :
    r'.points = r.points ∧ Moves n cs { r with points } { r' with points } := by
  cases h with
  | comment text => exact ⟨rfl, .comment text _⟩
  | heading => exact absurd rfl hcs
  | row inside | tableEnd inside => exact nomatch outside.symm.trans inside
  | idle _ absent => exact ⟨rfl, .idle outside absent⟩
  | close _ present closes => exact ⟨rfl, .close outside present closes⟩
  | extend _ adds => exact ⟨rfl, .extend outside adds⟩

theorem Runs.withPoints (h : Runs ls r r') (hls : ∀ line ∈ ls, line.1 ≠ "MatchPoints".toList)
    (outside : r.table = none) (points : Option PointTable) :
    r'.points = r.points ∧ Runs ls { r with points } { r' with points } := by
  induction h with
  | nil => exact ⟨rfl, .nil _⟩
  | cons moves _ ih =>
    obtain ⟨hline, hls⟩ := List.forall_mem_cons.1 hls
    obtain ⟨hpoints, hmoves⟩ := moves.withPoints hline outside points
    obtain ⟨hpoints', hruns⟩ := ih hls (moves.table_eq_none hline outside)
    exact ⟨hpoints'.trans hpoints, .cons hmoves hruns⟩

/-- The heading of the point table begins the table, which is the first. -/
theorem Moves.heading_inv (h : Moves n "MatchPoints".toList r r') (outside : r.table = none) :
    r.points = none ∧ r' = { r with table := some .empty } := by
  generalize hcs : "MatchPoints".toList = cs at h
  cases h with
  | comment | idle | close => exact absurd hcs (by simp)
  | heading _ first => exact ⟨first, rfl⟩
  | row inside | tableEnd inside => exact nomatch outside.symm.trans inside
  | extend _ adds => exact absurd (hcs ▸ adds) Draft.Adds.ne_heading

/-- There is no other heading after a point table. -/
theorem Runs.ne_heading (h : Runs ls r r') (outside : r.table = none) {t : PointTable}
    (points : r.points = some t) : ∀ line ∈ ls, line.1 ≠ "MatchPoints".toList := by
  induction h with
  | nil => exact nofun
  | @cons line _ _ _ _ moves _ ih =>
    have hline : line.1 ≠ "MatchPoints".toList := by
      intro hcs
      rw [hcs] at moves
      exact nomatch points.symm.trans (moves.heading_inv outside).1
    have hpoints := (moves.withPoints hline outside none).1.trans points
    exact List.forall_mem_cons.2 ⟨hline, ih (moves.table_eq_none hline outside) hpoints⟩

/-! ## The point table among the lines -/

/-- Inside the point table a line adds to it, or is blank and ends it. -/
theorem Moves.inside {t : PointTable} (h : Moves n cs r r') (inside : r.table = some t) :
    (cs ≠ [] ∧ ∃ t', r' = { r with table := some t' }) ∨
      cs = [] ∧ r' = { r with points := some t, table := none } := by
  cases h with
  | comment => exact .inl ⟨nofun, t, by rw [← inside]⟩
  | heading outside | idle outside | close outside | extend outside =>
    exact nomatch outside.symm.trans inside
  | row _ adds => exact .inl ⟨adds.ne_nil, _, rfl⟩
  | tableEnd inside' =>
    obtain rfl := Option.some.inj (inside.symm.trans inside')
    exact .inr ⟨rfl, rfl⟩

/-- Lines that lead out of the point table have a blank one, before which the table is read. -/
theorem Runs.leaves_table {t : PointTable} (h : Runs ls r r') (inside : r.table = some t)
    (outside : r'.table = none) :
    ∃ rows n after t', ls = rows ++ ([], n) :: after ∧ (∀ line ∈ rows, line.1 ≠ []) ∧
      Runs rows r { r with table := some t' } ∧
      Runs after { r with points := some t', table := none } r' := by
  induction h generalizing t with
  | nil => exact nomatch inside.symm.trans outside
  | @cons line ls r m r' moves rest ih =>
    obtain ⟨cs, n⟩ := line
    rcases moves.inside inside with ⟨hvisible, t₁, rfl⟩ | ⟨hblank, rfl⟩
    · obtain ⟨rows, k, after, t', rfl, hrows, hread, hafter⟩ := ih rfl outside
      exact ⟨(cs, n) :: rows, k, after, t', rfl, List.forall_mem_cons.2 ⟨hvisible, hrows⟩,
        .cons moves hread, hafter⟩
    · obtain rfl : cs = [] := hblank
      exact ⟨[], n, ls, t, rfl, nofun, by rw [← inside]; exact .nil r, rest⟩

/-- Lines that give the point table have its heading among them. -/
theorem Runs.reaches_table {t : PointTable} (h : Runs ls r r') (outside : r.table = none)
    (first : r.points = none) (points : r'.points = some t) :
    ∃ before n after m, ls = before ++ ("MatchPoints".toList, n) :: after ∧
      (∀ line ∈ before, line.1 ≠ "MatchPoints".toList) ∧ Runs before r m ∧ m.table = none ∧
      m.points = none ∧ Runs after { m with table := some .empty } r' := by
  induction h with
  | nil => exact nomatch first.symm.trans points
  | @cons line ls r m r' moves rest ih =>
    obtain ⟨cs, n⟩ := line
    by_cases hcs : cs = "MatchPoints".toList
    · subst hcs
      obtain ⟨-, rfl⟩ := moves.heading_inv outside
      exact ⟨[], n, ls, r, rfl, nofun, .nil r, outside, first, rest⟩
    · have hfirst := (moves.withPoints hcs outside none).1.trans first
      obtain ⟨before, k, after, m', rfl, hbefore, hread, hm', hpoints, hrest⟩ :=
        ih (moves.table_eq_none hcs outside) hfirst points
      exact ⟨(cs, n) :: before, k, after, m', rfl, List.forall_mem_cons.2 ⟨hcs, hbefore⟩,
        .cons moves hread, hm', hpoints, hrest⟩

/-- The lines of a text around its point table, whose blank line has a number. What is known before
the table is kept while it is read. -/
structure Around (ls before rows after : List (List Char × Nat)) (n k : Nat) (m : Reading)
    (t : PointTable) (r : Reading) : Prop where
  lines : ls = before ++ ("MatchPoints".toList, n) :: (rows ++ ([], k) :: after)
  headings : ∀ line ∈ before ++ after, line.1 ≠ "MatchPoints".toList
  visible : ∀ line ∈ rows, line.1 ≠ []
  begins : Runs before .start m
  outside : m.table = none
  table : Runs (before ++ ("MatchPoints".toList, n) :: rows) .start { m with table := some t }
  continues : Runs after { m with points := some t } r

/-- An accepted text has a point table. -/
theorem Runs.exists_around {t : PointTable} (h : Runs ls .start r) (outside : r.table = none)
    (points : r.points = some t) :
    ∃ before rows after n k m, Around ls before rows after n k m t r := by
  obtain ⟨before, n, ls, m, rfl, hbefore, hread, hm, hfirst, hrest⟩ :=
    h.reaches_table rfl rfl points
  obtain ⟨rows, k, after, t', rfl, hrows, htable, hafter⟩ := hrest.leaves_table rfl outside
  have hcontinues : Runs after { m with points := some t' } r := by
    rw [← hm] at hafter
    exact hafter
  have hheadings := hcontinues.ne_heading hm rfl
  obtain rfl : t' = t := by
    have hpoints := (hcontinues.withPoints hheadings hm none).1
    exact Option.some.inj (hpoints.symm.trans points)
  exact ⟨before, rows, after, n, k, m, rfl, List.forall_mem_append.2 ⟨hbefore, hheadings⟩, hrows,
    hread, hm, runs_append_iff.2 ⟨m, hread, .cons (.heading hm hfirst) htable⟩, hcontinues⟩

/-- What is outside of the point table is before and after it, and what comes later. -/
theorem Around.outsideTable_append {before rows after : List (List Char × Nat)} {n k : Nat}
    {m : Reading} {t : PointTable} (h : Around ls before rows after n k m t r)
    (rest : List (List Char × Nat)) : outsideTable (ls ++ rest) = before ++ after ++ rest := by
  rw [h.lines, List.append_assoc, List.cons_append, List.append_assoc, List.cons_append,
    Database.outsideTable_append (List.forall_mem_append.1 h.headings).1,
    outsideTable_table h.visible, List.append_assoc]

theorem Around.outsideTable_eq {before rows after : List (List Char × Nat)} {n k : Nat}
    {m : Reading} {t : PointTable} (h : Around ls before rows after n k m t r) :
    outsideTable ls = before ++ after := by
  simpa using h.outsideTable_append []

/-- Lines that lead past a point table give it, so that without one there is no heading. -/
theorem Runs.ne_heading_of_none (h : Runs ls r r') (outside : r.table = none)
    (outside' : r'.table = none) (points : r'.points = none) :
    ∀ line ∈ ls, line.1 ≠ "MatchPoints".toList := by
  induction h with
  | nil => simp
  | @cons line _ _ _ _ moves rest ih =>
    by_cases hline : line.1 = "MatchPoints".toList
    · rw [hline] at moves
      obtain ⟨-, rfl⟩ := moves.heading_inv outside
      obtain ⟨_, _, after, t, -, -, -, hafter⟩ := rest.leaves_table rfl outside'
      have hpoints := (hafter.withPoints (hafter.ne_heading rfl rfl) rfl none).1
      cases points.symm.trans hpoints
    · exact List.forall_mem_cons.2
        ⟨hline, ih (moves.table_eq_none hline outside) outside' points⟩

/-- What is outside of the point table was read as if it was not there. A line that comes next is
outside of it, too, unless it heads another. -/
theorem Runs.exists_outside (h : Runs ls .start r) (outside : r.table = none) :
    (∀ line ∈ outsideTable ls, line.1 ≠ "MatchPoints".toList) ∧
      Runs (outsideTable ls) { start with points := r.points } r ∧
      ∀ line rest, line.1 ≠ "MatchPoints".toList → ∃ rest',
        outsideTable (ls ++ line :: rest) = outsideTable ls ++ line :: rest' := by
  cases hpoints : r.points with
  | none =>
    have hls := h.ne_heading_of_none rfl outside hpoints
    have houtside : outsideTable ls = ls := by
      have happend := outsideTable_append hls []
      rwa [List.append_nil, show outsideTable [] = [] from rfl, List.append_nil] at happend
    rw [houtside]
    refine ⟨hls, h, fun line rest hline => ⟨outsideTable rest, ?_⟩⟩
    rw [outsideTable_append hls]
    exact congrArg (ls ++ ·) (@outsideTable_append [line] (by simpa using hline) rest)
  | some t =>
    obtain ⟨before, rows, after, n, k, m, haround⟩ := h.exists_around outside hpoints
    have hbefore := (List.forall_mem_append.1 haround.headings).1
    rw [haround.outsideTable_eq]
    refine ⟨haround.headings, ?_, fun line rest _ => ⟨rest, haround.outsideTable_append _⟩⟩
    exact runs_append_iff.2
      ⟨_, (haround.begins.withPoints hbefore rfl (some t)).2, haround.continues⟩

/-- Where no record is open at the blank line of the point table, the table begins outside of a
record. -/
theorem Around.absent {before rows after xs ys : List (List Char × Nat)} {n k : Nat} {m q : Reading}
    {t : PointTable} (h : Around ls before rows after n k m t r) (hls : ls.Pairwise (·.2 < ·.2))
    (hxs : ls = xs ++ ([], k) :: ys) (hruns : Runs xs .start q)
    (hq : q.table = none ∨ q.draft = none) : m.draft = none := by
  have hlines := h.lines
  rw [← List.cons_append, ← List.append_assoc, hxs] at hlines
  rw [hxs, List.pairwise_append, List.pairwise_cons] at hls
  -- The numbers increase, so that there is one line with this number.
  have hbefore : ([], k) ∉ xs := fun hmem =>
    Nat.lt_irrefl k (hls.2.2 _ hmem _ List.mem_cons_self)
  have hafter : ([], k) ∉ ys := fun hmem => Nat.lt_irrefl k (hls.2.1.1 _ hmem)
  obtain ⟨rfl, -⟩ := (List.append_cons_inj_of_notMem hbefore hafter).1 hlines
  obtain rfl := h.table.unique hruns
  exact hq.resolve_left nofun

end Reading

/-! ## Blocks and blank lines -/

/-- A blank line divides the blocks. -/
theorem cutAtBlanks_append_blank (xs ys : List (List Char × Nat)) (n : Nat) :
    cutAtBlanks (xs ++ ([], n) :: ys) = cutAtBlanks xs ++ cutAtBlanks ys := by
  rw [cutAtBlanks, List.splitOnP_append_cons _ _ (by simp), List.filter_append, cutAtBlanks,
    cutAtBlanks]

/-- The pieces of a list are made of its elements. -/
theorem mem_of_mem_splitOnP {α : Type} {p : α → Bool} {as piece : List α} {a : α}
    (hpiece : piece ∈ as.splitOnP p) (ha : a ∈ piece) : a ∈ as := by
  induction as generalizing piece with
  | nil =>
    rw [List.splitOnP_nil, List.mem_singleton] at hpiece
    exact hpiece ▸ ha
  | cons b as ih =>
    rw [List.splitOnP_cons_eq_if_modifyHead] at hpiece
    split at hpiece
    · rcases List.mem_cons.1 hpiece with rfl | hpiece
      · exact absurd ha List.not_mem_nil
      · exact List.mem_cons_of_mem b (ih hpiece ha)
    · obtain ⟨first, rest, hsplit⟩ := List.exists_cons_of_ne_nil (List.splitOnP_ne_nil p as)
      rw [hsplit, List.modifyHead_cons] at hpiece
      rw [hsplit] at ih
      rcases List.mem_cons.1 hpiece with rfl | hpiece
      · rcases List.mem_cons.1 ha with rfl | ha
        · exact List.mem_cons_self
        · exact List.mem_cons_of_mem b (ih List.mem_cons_self ha)
      · exact List.mem_cons_of_mem b (ih (List.mem_cons_of_mem first hpiece) ha)

/-- Blocks are made of the lines that are cut. -/
theorem mem_of_mem_cutAtBlanks {ls : List (List Char × Nat)} {b : Block} (hb : b ∈ cutAtBlanks ls)
    {line : List Char × Nat} (hline : line ∈ b) : line ∈ ls :=
  mem_of_mem_splitOnP (List.mem_filter.1 hb).1 hline

/-- No block has lines on both sides of where lines are divided. -/
theorem not_spans_of_mem_append {xs ys : List (List Char × Nat)} {n : Nat}
    (hxs : ∀ line ∈ xs, line.2 < n) (hys : ∀ line ∈ ys, n < line.2) {b : Block}
    (hb : b ∈ cutAtBlanks xs ++ cutAtBlanks ys) : ¬ b.Spans n := by
  rintro ⟨⟨l, hl, hlt⟩, ⟨l', hl', hgt⟩⟩
  rcases List.mem_append.1 hb with hb | hb
  · exact Nat.lt_asymm hgt (hxs l' (mem_of_mem_cutAtBlanks hb hl'))
  · exact Nat.lt_asymm hlt (hys l (mem_of_mem_cutAtBlanks hb hl))

/-- A blank line outside of the point table divides the blocks of numbered lines. -/
theorem not_spans_of_mem {ls : List (List Char × Nat)} (hls : ls.Pairwise (·.2 < ·.2)) {n : Nat}
    (hn : ([], n) ∈ ls) {b : Block} (hb : b ∈ cutAtBlanks ls) : ¬ b.Spans n := by
  obtain ⟨xs, ys, rfl⟩ := List.append_of_mem hn
  rw [List.pairwise_append, List.pairwise_cons] at hls
  rw [cutAtBlanks_append_blank] at hb
  exact not_spans_of_mem_append (fun line hline => hls.2.2 line hline _ (by simp)) hls.2.1.1 hb

namespace Reading

variable {r r' : Reading} {ls : List (List Char × Nat)}

/-- The lines that a record which is open was read from. There are none if no record is. -/
inductive Opened (r : Reading) : Block → Prop
  | noRecord (absent : r.draft = none) : Opened r []
  | record {line : List Char × Nat} {b : Block} {d : Draft} (present : r.draft = some d)
    (grows : Grows (line :: b) (.start line.2) d) : Opened r (line :: b)

/-- A line that is added to the record is one more that it was read from. -/
theorem Opened.concat {b : Block} {line : List Char × Nat} {d : Draft} (h : r.Opened b)
    (adds : (r.draftAt line.2).Adds line.2 line.1 d) :
    { r with draft := some d : Reading }.Opened (b ++ [line]) := by
  cases h with
  | noRecord absent =>
    rw [draftAt, absent, Option.getD_none] at adds
    exact .record rfl (.cons adds (.nil d))
  | record present grows =>
    rw [draftAt, present, Option.getD_some] at adds
    exact .record rfl (grows.append (.cons adds (.nil d)))

/-- Outside of the point table, the lines that a record which is open was read from are the last
block, and those that follow continue it. -/
theorem Runs.exists_opened (h : Runs ls r r') (hls : ∀ line ∈ ls, line.1 ≠ "MatchPoints".toList)
    (outside : r.table = none) (absent : r.draft = none) :
    ∃ closed b, r'.Opened b ∧ ∀ rest,
      cutAtBlanks ((ls.filter fun line => !isComment line) ++ rest) =
        closed ++ cutAtBlanks (b ++ rest) := by
  induction ls using List.reverseRecOn generalizing r' with
  | nil =>
    obtain rfl := runs_nil_iff.1 h
    exact ⟨[], [], .noRecord absent, fun rest => rfl⟩
  | append_singleton ls line ih =>
    obtain ⟨cs, n⟩ := line
    obtain ⟨hls, hline⟩ := List.forall_mem_append.1 hls
    obtain ⟨m, hruns, hmoves⟩ := runs_concat_iff.1 h
    have houtside := hruns.table_eq_none hls outside
    obtain ⟨closed, b, hb, hcut⟩ := ih hruns hls
    by_cases hcomment : isComment (cs, n)
    · obtain rfl := (moves_iff_of_isComment hcomment).1 hmoves
      exact ⟨closed, b, hb, by simpa [hcomment] using hcut⟩
    · have hfilter : (ls ++ [(cs, n)]).filter (fun line => !isComment line) =
          ls.filter (fun line => !isComment line) ++ [(cs, n)] := by
        simp [hcomment]
      simp only [hfilter, List.append_assoc, List.singleton_append, hcut]
      by_cases hcs : cs = []
      · subst hcs
        have hnone := hmoves.draft_eq_none houtside
        refine ⟨closed ++ cutAtBlanks b, [], .noRecord hnone, fun rest => ?_⟩
        rw [cutAtBlanks_append_blank, List.append_assoc, List.nil_append]
      · have hplain : Plain (cs, n) := ⟨hcs, hcomment, hline _ (List.mem_singleton_self _)⟩
        obtain ⟨d, hadds, rfl⟩ := (moves_iff_adds houtside hplain).1 hmoves
        exact ⟨closed, b ++ [(cs, n)], hb.concat hadds, fun rest => by rw [← List.append_cons]⟩

/-- Where no record is open the blocks are divided as by a blank line. -/
theorem Runs.cutAtBlanks_append (h : Runs ls r r')
    (hls : ∀ line ∈ ls, line.1 ≠ "MatchPoints".toList) (outside : r.table = none)
    (absent : r.draft = none) (absent' : r'.draft = none) (ls' : List (List Char × Nat)) :
    cutAtBlanks ((ls.filter fun line => !isComment line) ++ ls') =
      cutAtBlanks (ls.filter fun line => !isComment line) ++ cutAtBlanks ls' := by
  obtain ⟨closed, b, hb, hcut⟩ := h.exists_opened hls outside absent
  cases hb with
  | noRecord =>
    have hclosed := hcut []
    rw [List.append_nil, List.append_nil, cutAtBlanks_nil, List.append_nil] at hclosed
    rw [hcut, hclosed, List.nil_append]
  | record present => cases absent'.symm.trans present

/-- The blank lines of a text divide the blocks outside of its point table. That of the table does
where the table begins outside of a record. -/
theorem Around.not_spans {before rows after : List (List Char × Nat)} {n k i : Nat} {m : Reading}
    {t : PointTable} (h : Around ls before rows after n k m t r) (hls : ls.Pairwise (·.2 < ·.2))
    (hi : ([], i) ∈ ls) (absent : i = k → m.draft = none) {b : Block}
    (hb : b ∈ cutAtBlanks ((outsideTable ls).filter fun line => !isComment line)) :
    ¬ b.Spans i := by
  rw [h.outsideTable_eq] at hb
  rw [h.lines] at hls hi
  by_cases hk : i = k
  · subst hk
    obtain ⟨hheadings, -⟩ := List.forall_mem_append.1 h.headings
    rw [List.filter_append, h.begins.cutAtBlanks_append hheadings rfl rfl (absent rfl)] at hb
    rw [List.pairwise_append, List.pairwise_cons, List.pairwise_append, List.pairwise_cons] at hls
    obtain ⟨-, ⟨-, -, ⟨hafter, -⟩, -⟩, hbefore⟩ := hls
    refine not_spans_of_mem_append (fun line hline => ?_) (fun line hline => ?_) hb
    · exact hbefore line (List.mem_filter.1 hline).1 ([], i) (by simp)
    · exact hafter line (List.mem_filter.1 hline).1
  · have hmem : ([], i) ∈ before ++ after := by
      simp only [List.mem_append, List.mem_cons] at hi ⊢
      rcases hi with hi | hi | hi | hi | hi
      · exact .inl hi
      · exact nomatch congrArg Prod.fst hi
      · exact absurd rfl (h.visible _ hi)
      · exact absurd (congrArg Prod.snd hi) hk
      · exact .inr hi
    have hsublist : (before ++ after).Sublist
        (before ++ ("MatchPoints".toList, n) :: (rows ++ ([], k) :: after)) :=
      (List.Sublist.refl before).append (((List.sublist_cons_self _ after).trans
        (List.sublist_append_right rows _)).cons _)
    refine not_spans_of_mem ((hls.sublist hsublist).filter _) (List.mem_filter.2 ⟨hmem, ?_⟩) hb
    rfl

end Reading

/-! ## The records of a text -/

/-- The blocks of a text outside of its point table, without its comments. -/
def records (text : String) : List Block :=
  cutAtBlanks ((outsideTable (numberedLines 1 text)).filter fun line => !isComment line)

/-- An accepted text has a point table among its lines. -/
theorem exists_around_of_ofText {source text : String} {d : Database}
    (hd : (ofText source text).outcome = .ok d) :
    ∃ before rows after n k m r, Reading.Around (numberedLines 1 text) before rows after n k m
      d.points r ∧ ∃ r', Reading.Moves (lines text.toList).length [] r r' ∧
        r'.fingerprints.toList = d.fingerprints := by
  obtain ⟨r, hruns, htable, r', hmoves, hpoints, hfingerprints⟩ := outcome_ofText_eq_ok_iff.1 hd
  have hread := (hmoves.withPoints (by simp) htable none).1.symm.trans hpoints
  obtain ⟨before, rows, after, n, k, m, haround⟩ := hruns.exists_around htable hread
  exact ⟨before, rows, after, n, k, m, r, haround, r', hmoves, hfingerprints⟩

/-- An accepted text gives a fingerprint for each block outside of its point table, as if the table
was not there. -/
theorem forall₂_readAs_records {source text : String} {d : Database}
    (hd : (ofText source text).outcome = .ok d) :
    List.Forall₂ ReadAs (records text) d.fingerprints := by
  obtain ⟨r, hruns, htable, r', hmoves, -, hfingerprints⟩ := outcome_ofText_eq_ok_iff.1 hd
  obtain ⟨hheadings, houtside, -⟩ := hruns.exists_outside htable
  obtain ⟨fs, hfs, rfl⟩ := (Reading.runs_and_closes_iff rfl rfl hheadings).1 ⟨r, houtside, hmoves⟩
  rw [records, ← hfingerprints]
  simpa [Reading.gain, Reading.start] using hfs

/-- A database has a fingerprint for each block of its text outside of the point table. Each blank
line is read, leaves no record open and divides the blocks, but for the blank line of a point table
that begins inside of a record: there a blank line leaves the record as it is. -/
theorem blank_lines_end_records {source text : String} {d : Database}
    (hd : (ofText source text).outcome = .ok d) :
    List.Forall₂ Gives (records text) d.fingerprints ∧
      ∀ before raw n after, (lines text.toList).zipIdx 1 = before ++ (raw, n) :: after →
        trimEnd raw = [] →
        ∃ r r', (Logged.foldl (Reading.step source) .start before).outcome = .ok r ∧
          (Reading.step source r (raw, n)).outcome = .ok r' ∧
          (r.table = none ∨ r.draft = none →
            r'.draft = none ∧ ∀ b ∈ records text, ¬ b.Spans n) ∧
          (r.table ≠ none → r'.draft = r.draft) := by
  refine ⟨(forall₂_readAs_records hd).imp fun _ _ h => h.isRecord_and_gives.2,
    fun before raw n after hlines hraw => ?_⟩
  have hnumbered : numberedLines 1 text = (before.map fun line => (trimEnd line.1, line.2)) ++
      ([], n) :: after.map fun line => (trimEnd line.1, line.2) := by
    rw [numberedLines, hlines, List.map_append, List.map_cons, hraw]
  obtain ⟨_, hruns, -⟩ := outcome_ofText_eq_ok_iff.1 hd
  rw [hnumbered] at hruns
  obtain ⟨r, hr, hrest⟩ := Reading.runs_append_iff.1 hruns
  obtain ⟨r', hmoves, -⟩ := Reading.runs_cons_iff.1 hrest
  have hdraft (htable : r.table ≠ none) : r'.draft = r.draft := by
    obtain ⟨t, ht⟩ := Option.ne_none_iff_exists'.1 htable
    rcases hmoves.inside ht with ⟨hvisible, -⟩ | ⟨-, rfl⟩
    · exact absurd rfl hvisible
    · rfl
  refine ⟨r, r', Reading.outcome_foldl_step_eq_ok_iff.2 hr,
    Reading.outcome_step_eq_ok_iff.2 (by rw [hraw]; exact hmoves),
    fun hopen => ⟨?_, fun b hb => ?_⟩, hdraft⟩
  · by_cases htable : r.table = none
    · exact hmoves.draft_eq_none htable
    · exact (hdraft htable).trans (hopen.resolve_left htable)
  · obtain ⟨_, _, _, _, _, _, _, haround, -⟩ := exists_around_of_ofText hd
    refine haround.not_spans (pairwise_numberedLines 1 text) (by simp [hnumbered]) ?_ hb
    rintro rfl
    exact haround.absent (pairwise_numberedLines 1 text) hnumbered hr hopen

/-- The record is open before the blank line between it and the point table, and closed after it. -/
theorem blank_lines_end_records_before_table :
    ∃ text d r r', text = "Fingerprint box\nSEQ()\nOPS()\nWIN()\nECN()\nT1()\nT2()\nT3()\nT4()\nT5()
T6()\nT7()\nU1()\nIE()\n \nMatchPoints\nT1(R=30)\n\n" ∧ (ofText "" text).outcome = .ok d ∧
      (Logged.foldl (Reading.step "") .start (((lines text.toList).zipIdx 1).take 14)).outcome =
        .ok r ∧
      r.draft.isSome ∧ (Reading.step "" r ([' '], 15)).outcome = .ok r' ∧ r'.draft = none ∧
      ∀ b ∈ records text, ¬ b.Spans 15 := by
  generalize htext : "Fingerprint box\nSEQ()\nOPS()\nWIN()\nECN()\nT1()\nT2()\nT3()\nT4()\nT5()
T6()\nT7()\nU1()\nIE()\n \nMatchPoints\nT1(R=30)\n\n" = text
  have hread : (ofText "" text).outcome.isOk := by
    rw [← htext]
    decide +kernel
  have hbefore : ((Logged.foldl (Reading.step "") .start
      (((lines text.toList).zipIdx 1).take 14)).outcome.map fun r =>
        (r.draft.isSome, r.table.isNone)) = .ok (true, true) := by
    rw [← htext]
    decide +kernel
  have hlines : (lines text.toList).zipIdx 1 = ((lines text.toList).zipIdx 1).take 14 ++
      ([' '], 15) :: ((lines text.toList).zipIdx 1).drop 15 := by
    rw [← htext]
    decide +kernel
  obtain ⟨d, hd⟩ := exists_eq_ok_of_isOk hread
  obtain ⟨m, hm, hopen⟩ := map_eq_ok_iff.1 hbefore
  rw [Prod.mk.injEq, Option.isNone_iff_eq_none] at hopen
  obtain ⟨r, r', hr, hr', hends, -⟩ := (blank_lines_end_records hd).2 _ _ _ _ hlines (by decide)
  obtain rfl := Except.ok.inj (hm.symm.trans hr)
  obtain ⟨hdraft, hspans⟩ := hends (.inl hopen.2)
  exact ⟨text, d, m, r', rfl, hd, hr, hopen.1, hr', hdraft, hspans⟩

/-- A point table inside of a record. The blank line of the table leaves the record open, and the
fingerprint has its name from a line before and its groups from lines after. -/
theorem blank_line_inside_record :
    ∃ text d r, text = "Fingerprint box\nMatchPoints\nT1(R=30)\n\nSEQ()\nOPS()\nWIN()\nECN()\nT1()
T2()\nT3()\nT4()\nT5()\nT6()\nT7()\nU1()\nIE()" ∧ (ofText "" text).outcome = .ok d ∧
      d.fingerprints.map (fun f => (f.line, f.name, f.response? .seq)) =
        [(1, "box", some .silent)] ∧
      (lines text.toList)[3]? = some [] ∧
      (Logged.foldl (Reading.step "") .start (((lines text.toList).zipIdx 1).take 4)).outcome =
        .ok r ∧
      r.draft.map (fun draft => (draft.name, draft.responses.isEmpty)) = some (some "box", true) ∧
      ∃ b ∈ records text, b.Spans 4 := by
  generalize htext : "Fingerprint box\nMatchPoints\nT1(R=30)\n\nSEQ()\nOPS()\nWIN()\nECN()\nT1()
T2()\nT3()\nT4()\nT5()\nT6()\nT7()\nU1()\nIE()" = text
  have hread : ((ofText "" text).outcome.map fun d =>
      d.fingerprints.map fun f => (f.line, f.name, f.response? .seq)) =
        .ok [(1, "box", some .silent)] := by
    rw [← htext]
    decide +kernel
  have hbefore : ((Logged.foldl (Reading.step "") .start
      (((lines text.toList).zipIdx 1).take 4)).outcome.map fun r =>
        r.draft.map fun draft => (draft.name, draft.responses.isEmpty)) =
          .ok (some (some "box", true)) := by
    rw [← htext]
    decide +kernel
  obtain ⟨d, hd, hresponses⟩ := map_eq_ok_iff.1 hread
  obtain ⟨r, hr, hdraft⟩ := map_eq_ok_iff.1 hbefore
  refine ⟨text, d, r, rfl, hd, hresponses, ?_, hr, hdraft, ?_⟩
  · rw [← htext]
    decide +kernel
  · rw [← htext]
    decide +kernel

end Database

end OsDetection
