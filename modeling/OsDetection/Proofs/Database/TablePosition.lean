import OsDetection.Proofs.Database.Boundaries
import OsDetection.Proofs.Database.Layout

/-!
# The position of the point table

The point table may stand before the records, after them or between two of them. Reading it leaves
the records alone and depends on none (`Reading.Runs.anywhere`), and the records are read alike with
and without a table (`Reading.Runs.withPoints`), so that the table can be read before the records
that precede it, whether or not one of them is open there (`Reading.reached_swap_iff`). Both orders
lead to the same, but for the numbers of the lines; and these are not looked at, so that lines can
be numbered in another way (`Reading.Runs.renumber`).
-/

namespace OsDetection

open OsDetection.Text

namespace Database

/-- The lines of a point table, without their final blanks: a heading, and what follows up to the
first blank line and with it. -/
def IsTable (ls : List (List Char)) : Prop :=
  ∃ rows, ls = "MatchPoints".toList :: (rows ++ [[]]) ∧ [] ∉ rows

/-- The text that lines make, each ended by a line feed. -/
def textOfLines (ls : List (List Char)) : String :=
  String.ofList (ls.flatMap (· ++ ['\n']))

theorem lines_textOfLines {ls : List (List Char)} (h : ∀ l ∈ ls, '\n' ∉ l) :
    lines (textOfLines ls).toList = ls := by
  have hlines := lines_append h []
  rw [List.append_nil, lines_nil, List.append_nil] at hlines
  rwa [textOfLines, String.toList_ofList]

namespace Reading

variable {r r' s : Reading} {cs : List Char} {n : Nat} {ls ls' : List (List Char × Nat)}

/-! ## The numbers of the lines -/

/-- A line does the same under another number, but for the numbers of lines. -/
theorem Moves.renumber (h : Moves n cs r r') (hs : r.unnumbered = s.unnumbered) (k : Nat) :
    ∃ s', Moves k cs s s' ∧ r'.unnumbered = s'.unnumbered := by
  have htable : r.table = s.table := (of_unnumbered_eq hs).1
  cases hr : r.table with
  | none =>
    have hmoves := (@outcome_recordLine_eq_ok_iff "" _ _ _ _ hr).2 h
    have hline : (recordLine "" r n cs).unnumbered unnumbered =
        (recordLine "" s k cs).unnumbered unnumbered := by
      rw [← r.unnumbered_recordLine, hs, s.unnumbered_recordLine]
    obtain ⟨s', hs', h⟩ := Logged.exists_ok_of_unnumbered_eq hline hmoves
    exact ⟨s', (outcome_recordLine_eq_ok_iff (htable ▸ hr)).1 hs', h⟩
  | some table =>
    have hmoves := (outcome_tableLine_eq_ok_iff hr).2 h
    have hline : (r.tableLine table n cs).unnumbered unnumbered =
        (s.tableLine table k cs).unnumbered unnumbered := by
      rw [← r.unnumbered_tableLine, hs, s.unnumbered_tableLine]
    obtain ⟨s', hs', h⟩ := Logged.exists_ok_of_unnumbered_eq hline hmoves
    exact ⟨s', (outcome_tableLine_eq_ok_iff (htable ▸ hr)).1 hs', h⟩

/-- Lines that are numbered in another way lead to the same, but for the numbers of lines. -/
theorem Runs.renumber (h : Runs ls r r') (hs : r.unnumbered = s.unnumbered)
    (hls : ls'.map (·.1) = ls.map (·.1)) : ∃ s', Runs ls' s s' ∧ r'.unnumbered = s'.unnumbered := by
  induction h generalizing s ls' with
  | nil =>
    obtain rfl := List.map_eq_nil_iff.1 hls
    exact ⟨s, .nil s, hs⟩
  | cons moves _ ih =>
    obtain ⟨line, rest, rfl, hline, hrest⟩ := List.map_eq_cons_iff.1 hls
    obtain ⟨m, hm, hsm⟩ := moves.renumber hs line.2
    obtain ⟨s', hs', hsr⟩ := ih hsm hrest
    exact ⟨s', .cons (hline ▸ hm) hs', hsr⟩

/-! ## The table apart from the records -/

/-- A line of the point table does to it what it does, whatever the records are. -/
theorem Moves.anywhere {t : PointTable} (h : Moves n cs r r') (inside : r.table = some t)
    (hcs : cs ≠ []) : ∃ t', r' = { r with table := some t' } ∧
      ∀ s : Reading, s.table = some t → Moves n cs s { s with table := some t' } := by
  cases h with
  | comment text => exact ⟨t, by rw [← inside], fun s hs => by rw [← hs]; exact .comment text s⟩
  | heading outside | extend outside => exact nomatch outside.symm.trans inside
  | row inside' adds =>
    obtain rfl := Option.some.inj (inside.symm.trans inside')
    exact ⟨_, rfl, fun s hs => .row hs adds⟩
  | tableEnd | idle | close => exact absurd rfl hcs

theorem Runs.anywhere_inside {t : PointTable} (h : Runs ls r r') (inside : r.table = some t)
    (hls : ∀ line ∈ ls, line.1 ≠ []) : ∃ t', r' = { r with table := some t' } ∧
      ∀ s : Reading, s.table = some t → Runs ls s { s with table := some t' } := by
  induction h generalizing t with
  | nil => exact ⟨t, by rw [← inside], fun s hs => by rw [← hs]; exact .nil s⟩
  | cons moves _ ih =>
    obtain ⟨hline, hls⟩ := List.forall_mem_cons.1 hls
    obtain ⟨t₁, rfl, hmoves⟩ := moves.anywhere inside hline
    obtain ⟨t₂, rfl, hruns⟩ := ih rfl hls
    exact ⟨t₂, rfl, fun s hs => .cons (hmoves s hs) (hruns _ rfl)⟩

/-- The lines of a point table are read as the same table wherever no table was read before, and
leave the records as they are. -/
theorem Runs.anywhere (h : Runs ls r r') (htable : IsTable (ls.map (·.1)))
    (outside : r.table = none) :
    ∃ t, r' = { r with points := some t } ∧
      ∀ s : Reading, s.table = none → s.points = none → Runs ls s { s with points := some t } := by
  obtain ⟨texts, hls, htexts⟩ := htable
  obtain ⟨⟨_, n⟩, rest, rfl, rfl, hrest⟩ := List.map_eq_cons_iff.1 hls
  obtain ⟨rows, ends, rfl, rfl, hends⟩ := List.map_eq_append_iff.1 hrest
  obtain ⟨⟨_, k⟩, rfl, rfl⟩ := List.map_eq_singleton_iff.1 hends
  have hrows : ∀ line ∈ rows, line.1 ≠ [] := fun line hline hnil =>
    htexts (hnil ▸ List.mem_map_of_mem hline)
  obtain ⟨m, hheading, hrest⟩ := runs_cons_iff.1 h
  obtain ⟨-, rfl⟩ := hheading.heading_inv outside
  obtain ⟨m, hread, hblank⟩ := runs_concat_iff.1 hrest
  obtain ⟨t, rfl, hanywhere⟩ := hread.anywhere_inside rfl hrows
  have ends (s : Reading) (hs : s.table = none) : Moves k [] { s with table := some t }
      { s with points := some t } := by
    have hends := @Moves.tableEnd k { s with table := some t } t rfl
    rwa [← hs] at hends
  refine ⟨t, hblank.unique (ends r outside), fun s hs hfirst => ?_⟩
  exact .cons (.heading hs hfirst) (runs_concat_iff.2 ⟨_, hanywhere _ rfl, ends s hs⟩)

/-- Lines, under some numbers, lead from the beginning to a reading. -/
def Reached (ls : List (List Char)) (r : Reading) : Prop :=
  ∃ numbered : List (List Char × Nat), numbered.map (·.1) = ls ∧ Runs numbered .start r

/-- A table that is read after records could be read before them, and the other way round. Whether
the last of them is still open does not matter. -/
theorem reached_swap_iff {before table after : List (List Char)} (htable : IsTable table)
    (hbefore : "MatchPoints".toList ∉ before) :
    Reached (before ++ table ++ after) r ↔ Reached (table ++ before ++ after) r := by
  have noHeading {bs : List (List Char × Nat)} (hbs : bs.map (·.1) = before) :
      ∀ line ∈ bs, line.1 ≠ "MatchPoints".toList := fun line hline hheading =>
    hbefore (hbs ▸ hheading ▸ List.mem_map_of_mem hline)
  constructor
  · rintro ⟨_, hnumbers, h⟩
    obtain ⟨_, as, rfl, hparts, rfl⟩ := List.map_eq_append_iff.1 hnumbers
    obtain ⟨bs, ts, rfl, hbs, rfl⟩ := List.map_eq_append_iff.1 hparts
    obtain ⟨_, h, hafter⟩ := runs_append_iff.1 h
    obtain ⟨m, hm, hread⟩ := runs_append_iff.1 h
    obtain ⟨t, rfl, hanywhere⟩ := hread.anywhere htable (hm.table_eq_none (noHeading hbs) rfl)
    have hmoved := (hm.withPoints (noHeading hbs) rfl (some t)).2
    refine ⟨ts ++ bs ++ as, by simp [hbs], ?_⟩
    exact runs_append_iff.2 ⟨_, runs_append_iff.2 ⟨_, hanywhere .start rfl rfl, hmoved⟩, hafter⟩
  · rintro ⟨_, hnumbers, h⟩
    obtain ⟨_, as, rfl, hparts, rfl⟩ := List.map_eq_append_iff.1 hnumbers
    obtain ⟨ts, bs, rfl, rfl, hbs⟩ := List.map_eq_append_iff.1 hparts
    obtain ⟨m, h, hafter⟩ := runs_append_iff.1 h
    obtain ⟨_, hread, hm⟩ := runs_append_iff.1 h
    obtain ⟨t, rfl, hanywhere⟩ := hread.anywhere htable rfl
    obtain ⟨hpoints, hmoved⟩ := hm.withPoints (noHeading hbs) rfl none
    have hagain : Runs ts { m with points := none } { m with points := some t } :=
      hanywhere _ (hm.table_eq_none (noHeading hbs) rfl) rfl
    rw [← show m.points = some t from hpoints] at hagain
    refine ⟨bs ++ ts ++ as, by simp [hbs], ?_⟩
    exact runs_append_iff.2 ⟨m, runs_append_iff.2 ⟨_, hmoved, hagain⟩, hafter⟩

end Reading

/-! ## Texts -/

/-- The lines of a text, without their numbers. -/
theorem map_fst_numberedLines (first : Nat) (text : String) :
    (numberedLines first text).map (·.1) = (lines text.toList).map trimEnd := by
  rw [numberedLines, List.map_map]
  conv_rhs => rw [← List.zipIdx_map_fst first (lines text.toList), List.map_map]
  rfl

/-- What a text gives, but for the numbers of lines, can be told from where its lines lead under
whatever numbers. -/
theorem exists_ofText_iff {source text : String} {u : Database} :
    (∃ d, (ofText source text).outcome = .ok d ∧ d.unnumbered = u) ↔
      ∃ r, Reading.Reached ((lines text.toList).map trimEnd) r ∧ r.table = none ∧
        ∃ r', Reading.Moves 0 [] r r' ∧ r'.points = some u.points ∧
          r'.fingerprints.toList.map (·.unnumbered) = u.fingerprints := by
  constructor
  · rintro ⟨d, hd, rfl⟩
    obtain ⟨r, hr, htable, r', hend, hpoints, hfingerprints⟩ := outcome_ofText_eq_ok_iff.1 hd
    obtain ⟨s', hs', hsame⟩ := hend.renumber rfl 0
    obtain ⟨-, hp, hf⟩ := Reading.of_unnumbered_eq hsame
    refine ⟨r, ⟨_, map_fst_numberedLines 1 text, hr⟩, htable, s', hs', hp ▸ hpoints, ?_⟩
    rw [← hf, hfingerprints]
    rfl
  · rintro ⟨r, ⟨ls, hls, hr⟩, htable, r', hend, hpoints, hfingerprints⟩
    obtain ⟨s, hs, hrs⟩ := hr.renumber rfl ((map_fst_numberedLines 1 text).trans hls.symm)
    obtain ⟨s', hs', hrs'⟩ := hend.renumber hrs (lines text.toList).length
    obtain ⟨ht, -⟩ := Reading.of_unnumbered_eq hrs
    obtain ⟨-, hp, hf⟩ := Reading.of_unnumbered_eq hrs'
    refine ⟨⟨s'.fingerprints.toList, u.points⟩, outcome_ofText_eq_ok_iff.2
      ⟨s, hs, ht ▸ htable, s', hs', hp ▸ hpoints, rfl⟩, ?_⟩
    rw [unnumbered, ← hf, hfingerprints]

/-- **The point table may stand anywhere.** A text with a point table after other lines, none of
which heads another table, is a database exactly if the text with the table put first is. Both have
the same point table, and the same fingerprints in the same order but for the lines they stand
on. -/
theorem ofText_table_first (source : String) {before table after : List (List Char)}
    (single : ∀ l ∈ before ++ table ++ after, '\n' ∉ l) (htable : IsTable (table.map trimEnd))
    (headings : "MatchPoints".toList ∉ before.map trimEnd) :
    ((∃ d, (ofText source (textOfLines (before ++ table ++ after))).outcome = .ok d) ↔
        ∃ d, (ofText source (textOfLines (table ++ before ++ after))).outcome = .ok d) ∧
      ∀ d d', (ofText source (textOfLines (before ++ table ++ after))).outcome = .ok d →
        (ofText source (textOfLines (table ++ before ++ after))).outcome = .ok d' →
        d.points = d'.points ∧
          d.fingerprints.map (·.unnumbered) = d'.fingerprints.map (·.unnumbered) := by
  have hsingle : ∀ l ∈ table ++ before ++ after, '\n' ∉ l := fun l hl =>
    single l (by simpa [or_comm, or_left_comm] using hl)
  have h (u : Database) :
      (∃ d, (ofText source (textOfLines (before ++ table ++ after))).outcome = .ok d ∧
          d.unnumbered = u) ↔
        ∃ d, (ofText source (textOfLines (table ++ before ++ after))).outcome = .ok d ∧
          d.unnumbered = u := by
    simp only [exists_ofText_iff, lines_textOfLines single, lines_textOfLines hsingle,
      List.map_append, Reading.reached_swap_iff htable headings]
  refine ⟨⟨?_, ?_⟩, ?_⟩
  · rintro ⟨d, hd⟩
    obtain ⟨d', hd', -⟩ := (h d.unnumbered).1 ⟨d, hd, rfl⟩
    exact ⟨d', hd'⟩
  · rintro ⟨d, hd⟩
    obtain ⟨d', hd', -⟩ := (h d.unnumbered).2 ⟨d, hd, rfl⟩
    exact ⟨d', hd'⟩
  · intro d d' hd hd'
    obtain ⟨d'', hd'', hsame⟩ := (h d.unnumbered).1 ⟨d, hd, rfl⟩
    obtain rfl := Except.ok.inj (hd'.symm.trans hd'')
    rw [unnumbered, unnumbered, Database.mk.injEq] at hsame
    exact ⟨hsame.2.symm, hsame.1.symm⟩

/-- A table after a record, with a comment in it and another one after it. -/
theorem ofText_table_first_after_record :
    ∃ before table after d d',
      before = lines "Fingerprint box\nSEQ()\nOPS()\nWIN()\nECN()\nT1()\nT2()\nT3()\nT4()\nT5()
T6()\nT7()\nU1()\nIE()\n \n".toList ∧
      table = lines "MatchPoints\r\n# worth\nT1(R=30)\n\t\n".toList ∧
      after = lines "# end\n".toList ∧
      (ofText "" (textOfLines (before ++ table ++ after))).outcome = .ok d ∧
      (ofText "" (textOfLines (table ++ before ++ after))).outcome = .ok d' ∧
      d.fingerprints.map (fun f => (f.name, f.line)) = [("box", 1)] ∧ d.points = d'.points ∧
      d.fingerprints.map (·.unnumbered) = d'.fingerprints.map (·.unnumbered) := by
  generalize hbefore : lines "Fingerprint box\nSEQ()\nOPS()\nWIN()\nECN()\nT1()\nT2()\nT3()\nT4()
T5()\nT6()\nT7()\nU1()\nIE()\n \n".toList = before
  generalize htable : lines "MatchPoints\r\n# worth\nT1(R=30)\n\t\n".toList = table
  generalize hafter : lines "# end\n".toList = after
  have single : ∀ l ∈ before ++ table ++ after, '\n' ∉ l := by
    rw [← hbefore, ← htable, ← hafter]
    decide +kernel
  have hparts : IsTable (table.map trimEnd) := by
    rw [← htable]
    exact ⟨["# worth".toList, "T1(R=30)".toList], by decide +kernel, by decide⟩
  have headings : "MatchPoints".toList ∉ before.map trimEnd := by
    rw [← hbefore]
    decide +kernel
  have hread : ((ofText "" (textOfLines (before ++ table ++ after))).outcome.map fun d =>
      d.fingerprints.map fun f => (f.name, f.line)) = .ok [("box", 1)] := by
    rw [← hbefore, ← htable, ← hafter]
    decide +kernel
  obtain ⟨d, hd, hlines⟩ := map_eq_ok_iff.1 hread
  obtain ⟨hiff, hsame⟩ := ofText_table_first "" single hparts headings
  obtain ⟨d', hd'⟩ := hiff.1 ⟨d, hd⟩
  exact ⟨before, table, after, d, d', rfl, rfl, rfl, hd, hd', hlines, hsame d d' hd hd'⟩

end Database

end OsDetection
