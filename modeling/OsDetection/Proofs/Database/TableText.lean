import Mathlib.Algebra.GroupWithZero.Nat
import OsDetection.Proofs.Database.Boundaries
import OsDetection.Proofs.Database.Written
import OsDetection.Proofs.Numeral.Spelled
import OsDetection.Proofs.Points

/-!
# The text of a point table

Each row of a point table is a line of its own: the name of a probe and, in brackets, a test and its
points for every entry (`PointTable.WritesRow`). The rows stand between the heading of the table and
the next blank line, with comments among them. Such lines are read without a fault exactly if each
line but the comments writes a row, of different probes, and the blank line is there. Then nothing
that is written is lost and nothing else comes in: the table has one entry for each that is written,
and the most that can be earned is the sum of all the points (`Database.ofText_tableBlock`).
-/

namespace OsDetection

open OsDetection.Text OsDetection.Numeral

/-! ## Points -/

namespace Text

/-- Trimming a text takes only blanks from it. -/
theorem isBlank_or_mem_trim {cs : List Char} {c : Char} (h : c ∈ cs) : isBlank c ∨ c ∈ trim cs := by
  obtain ⟨before, after, hcs, hblank⟩ := exists_eq_append_trim_append cs
  rw [hcs] at h
  simp only [List.mem_append] at h hblank
  rcases h with (hbefore | htrim) | hafter
  · exact .inl (hblank c (.inl hbefore))
  · exact .inr htrim
  · exact .inl (hblank c (.inr hafter))

end Text

namespace PointRow

/-- Whether a text spells points. Without the blanks around it, it is digits, at least one, which a
plus sign may come before; however many they are, their value is a 32-bit number. -/
def SpellsPoints (value : List Char) (points : UInt32) : Prop :=
  ∃ sign digits, trim value = sign ++ digits ∧ (sign = [] ∨ sign = ['+']) ∧ digits ≠ [] ∧
    (∀ c ∈ digits, c.isDigit) ∧ Nat.ofDigitChars 10 digits 0 = points.toNat

variable {value : List Char} {points : UInt32}

/-- Points are read exactly if a text spells them. -/
theorem pointsOfText?_eq_some_iff :
    pointsOfText? value = some points ↔ SpellsPoints value points := by
  rw [pointsOfText?, Option.map_eq_some_iff]
  simp only [decimal?_eq_some_iff, spells_ten_iff]
  constructor
  · rintro ⟨n, ⟨sign, digits, htrim, hsign, ⟨hne, hdigits, hvalue⟩, hlt⟩, rfl⟩
    refine ⟨sign, digits, htrim, hsign, hne, hdigits, ?_⟩
    rw [hvalue, UInt32.toNat_ofNat_of_lt' hlt]
  · rintro ⟨sign, digits, htrim, hsign, hne, hdigits, hvalue⟩
    exact ⟨points.toNat, ⟨sign, digits, htrim, hsign, ⟨hne, hdigits, hvalue⟩, points.toNat_lt⟩,
      UInt32.ofNat_toNat⟩

/-- A text that spells points holds no separator and no bracket. -/
theorem SpellsPoints.plain (h : SpellsPoints value points) : ∀ c ∈ value, c ∉ ['%', '(', ')'] := by
  obtain ⟨sign, digits, htrim, hsign, -, hdigits, -⟩ := h
  have hsigns : ['%', '(', ')'].all fun c => !isBlank c && c != '+' && !c.isDigit := by decide
  intro c hc hmem
  have hplain : isBlank c = false ∧ c ≠ '+' ∧ c.isDigit = false := by
    simpa [and_assoc] using List.all_eq_true.1 hsigns c hmem
  rcases isBlank_or_mem_trim hc with hblank | htrimmed
  · exact Bool.false_ne_true (hplain.1.symm.trans hblank)
  · rw [htrim] at htrimmed
    rcases List.mem_append.1 htrimmed with hplus | hdigit
    · rcases hsign with rfl | rfl
      · cases hplus
      · exact hplain.2.1 (List.mem_singleton.1 hplus)
    · exact Bool.false_ne_true (hplain.2.2.symm.trans (hdigits c hdigit))

/-- Whether an entry writes a test that a probe accepts, and its points. -/
def WritesEntry (probe : Probe) (entry : List Char) (pair : String × UInt32) : Prop :=
  ∃ value, entry = entryText pair.1 value ∧ probe.accepts pair.1 ∧ SpellsPoints value pair.2

section
variable {probe : Probe} {entry : List Char} {pair pair' : String × UInt32}

/-- An entry gives a test its points exactly if it writes them. -/
theorem gives_iff : Gives probe entry pair ↔ WritesEntry probe entry pair := by
  unfold Gives WritesEntry
  simp only [pointsOfText?_eq_some_iff]
  constructor
  · rintro ⟨value, rfl, -, haccepts, hpoints⟩
    exact ⟨value, rfl, haccepts, hpoints⟩
  · rintro ⟨value, rfl, haccepts, hpoints⟩
    have hname := (Probe.spelling_of_accepts haccepts).2
    exact ⟨value, rfl, not_mem_of_isAlphanum hname (by decide), haccepts, hpoints⟩

/-- An entry gives points to one test only. -/
theorem Gives.unique (h : Gives probe entry pair) (h' : Gives probe entry pair') :
    pair = pair' := by
  obtain ⟨value, hentry, hname, -, hpoints⟩ := h
  obtain ⟨value', hentry', hname', -, hpoints'⟩ := h'
  have hcut := cut?_eq_some_iff.2 ⟨hentry, hname⟩
  rw [cut?_eq_some_iff.2 ⟨hentry', hname'⟩] at hcut
  obtain ⟨htest, rfl⟩ := Prod.mk.inj (Option.some.inj hcut)
  rw [hpoints] at hpoints'
  exact Prod.ext (String.toList_inj.1 htest.symm) (Option.some.inj hpoints')

/-- An entry holds no separator and no bracket. -/
theorem WritesEntry.plain (h : WritesEntry probe entry pair) :
    ∀ c ∈ entry, c ∉ ['%', '(', ')'] := by
  obtain ⟨value, rfl, haccepts, hpoints⟩ := h
  have hsigns : ['%', '(', ')'].all fun c => !c.isAlphanum && c != '=' := by decide
  intro c hc hmem
  have hplain : c.isAlphanum = false ∧ c ≠ '=' := by
    simpa using List.all_eq_true.1 hsigns c hmem
  rcases List.mem_append.1 hc with htest | hsaid
  · exact not_mem_of_isAlphanum (Probe.spelling_of_accepts haccepts).2 hplain.1 htest
  · rcases List.mem_cons.1 hsaid with hequals | hvalue
    · exact hplain.2 hequals
    · exact hpoints.plain c hvalue hmem

end

end PointRow

/-! ## Rows -/

namespace PointTable

/-- Whether a line writes a row: the name of a probe that counts and, in brackets, entries for
different tests, at least one. -/
structure WritesRow (cs : List Char) (row : Probe × List (String × UInt32)) : Prop where
  written : ∃ entries, cs = groupLine row.1.name entries ∧
    List.Forall₂ (PointRow.WritesEntry row.1) entries row.2
  scored : row.1 ≠ .scan
  nonempty : row.2 ≠ []
  distinct : (row.2.map (·.1)).Nodup

/-- The table made of rows as they are written. -/
def ofRows (rows : List (Probe × List (String × UInt32))) : PointTable :=
  ⟨.ofList (rows.map fun row => (row.1, (.ofList row.2 : PointRow)))⟩

/-- Every test that is written with its points, and its probe. -/
def writtenEntries (rows : List (Probe × List (String × UInt32))) :
    List (Probe × String × UInt32) :=
  rows.flatMap fun row => row.2.map fun entry => (row.1, entry)

section
variable {cs : List Char} {row row' : Probe × List (String × UInt32)}

/-- A line that writes a row is a group line whose body gives different tests their points. -/
theorem writesRow_iff : WritesRow cs row ↔
    ∃ body, cs = row.1.name.toList ++ '(' :: (body ++ [')']) ∧ '(' ∉ body ∧ ')' ∉ body ∧
      row.1 ≠ .scan ∧ List.Forall₂ (PointRow.Gives row.1) (split '%' body) row.2 ∧
      (row.2.map (·.1)).Nodup := by
  constructor
  · rintro ⟨⟨entries, rfl, hentries⟩, hscored, hne, hdistinct⟩
    have hplain : ∀ entry ∈ entries, ∀ c ∈ entry, c ∉ ['%', '(', ')'] := by
      intro entry hentry
      obtain ⟨pair, -, hwrites⟩ := exists_mem_of_forall₂ hentries.flip hentry
      exact PointRow.WritesEntry.plain hwrites
    have hbody : ∀ c ∈ ['%'].intercalate entries, c ∉ ['(', ')'] :=
      forall_mem_intercalate (by simp) fun entry hentry c hc hmem =>
        hplain entry hentry c hc (List.mem_cons_of_mem _ hmem)
    have hsplit : split '%' (['%'].intercalate entries) = entries := by
      refine split_intercalate ?_ fun entry hentry hmem => hplain entry hentry _ hmem (by simp)
      rintro rfl
      exact hne (List.forall₂_nil_left_iff.1 hentries)
    refine ⟨_, rfl, fun hmem => hbody _ hmem (by simp), fun hmem => hbody _ hmem (by simp), hscored,
      ?_, hdistinct⟩
    rw [hsplit]
    exact hentries.imp fun _ _ hwrites => PointRow.gives_iff.2 hwrites
  · rintro ⟨body, rfl, -, -, hscored, hentries, hdistinct⟩
    refine ⟨⟨split '%' body, ?_, hentries.imp fun _ _ hgives => PointRow.gives_iff.1 hgives⟩,
      hscored, ?_, hdistinct⟩
    · rw [groupLine, intercalate_split]
    · intro hnil
      rw [hnil, List.forall₂_nil_right_iff] at hentries
      exact split_ne_nil _ _ hentries

/-- A line writes one row only. -/
theorem WritesRow.unique (h : WritesRow cs row) (h' : WritesRow cs row') : row = row' := by
  obtain ⟨body, hcs, hopened, hclosed, -, hgives, -⟩ := writesRow_iff.1 h
  obtain ⟨body', hcs', hopened', hclosed', -, hgives', -⟩ := writesRow_iff.1 h'
  have hkind := Line.Says.ofProbe row.1 hopened hclosed
  have hkind' := Line.Says.ofProbe row'.1 hopened' hclosed'
  rw [← hcs] at hkind
  rw [← hcs'] at hkind'
  obtain ⟨hname, rfl⟩ := Line.group.inj (hkind.unique hkind')
  have hprobe : row.1 = row'.1 := by
    have hofName := Probe.ofName?_name row.1
    rw [String.toList_inj.1 hname, Probe.ofName?_name] at hofName
    exact (Option.some.inj hofName).symm
  rw [← hprobe] at hgives'
  have hunique : Relator.RightUnique (PointRow.Gives row.1) :=
    fun _ _ _ hgives hgives' => hgives.unique hgives'
  exact Prod.ext hprobe (hunique.forall₂ hgives hgives')

/-- A line adds to a table exactly if it writes a row of a new probe. -/
theorem adds_iff {t t' : PointTable} : t.Adds cs t' ↔
    ∃ row, WritesRow cs row ∧ ¬ t.contains row.1 ∧ t' = t.insert row.1 (.ofList row.2) := by
  constructor
  · intro hadds
    cases hadds with
    | @row _ probe body _ opened closed scored new describes =>
      obtain ⟨pairs, hpairs, hdistinct, rfl⟩ := describes
      exact ⟨(probe, pairs), writesRow_iff.2 ⟨body, rfl, opened, closed, scored, hpairs, hdistinct⟩,
        new, rfl⟩
  · rintro ⟨row, hwrites, hnew, rfl⟩
    obtain ⟨body, rfl, opened, closed, scored, hpairs, hdistinct⟩ := writesRow_iff.1 hwrites
    exact .row opened closed scored hnew ⟨row.2, hpairs, hdistinct, rfl⟩

end

section
variable (rows : List (Probe × List (String × UInt32))) (row : Probe × List (String × UInt32))

theorem ofRows_concat :
    ofRows (rows ++ [row]) = (ofRows rows).insert row.1 (.ofList row.2) := by
  rw [ofRows, List.map_append, List.map_singleton, ofList_concat]
  rfl

theorem contains_ofRows_iff (probe : Probe) :
    (ofRows rows).contains probe ↔ probe ∈ rows.map (·.1) := by
  simp [contains, ofRows, Std.ExtTreeMap.contains_ofList]

end

section
variable {rows : List (Probe × List (String × UInt32))} (h : (rows.map (·.1)).Nodup)
  (hrows : ∀ row ∈ rows, (row.2.map (·.1)).Nodup)
include h hrows

/-- The table made of rows has the entries that are written, of which none is lost. -/
theorem perm_entries_ofRows : (ofRows rows).entries.Perm (writtenEntries rows) := by
  have htable : (ofRows rows).rows.toList.Perm
      (rows.map fun row => (row.1, (.ofList row.2 : PointRow))) :=
    perm_toList_ofList (by rwa [List.map_map])
  refine (htable.flatMap_right _).trans ?_
  rw [List.flatMap_map]
  refine List.Perm.flatMap_left _ fun row hrow => ?_
  exact (perm_toList_ofList (hrows row hrow)).map _

/-- So its points add up to those that are written. -/
theorem most_ofRows : (ofRows rows).most = worth (writtenEntries rows) := by
  rw [most_eq_worth_entries]
  exact ((perm_entries_ofRows h hrows).map _).sum_eq

end

end PointTable

namespace Database

/-! ## Lines of the table -/

/-- Lines without the blanks at their ends, and without the comments among them. -/
def visibleRows (ls : List (List Char)) : List (List Char) :=
  (ls.map trimEnd).filter fun cs => cs.head? ≠ some '#'

section
variable {raw : List Char} {ls : List (List Char)} {t t' : PointTable}

/-- A comment adds nothing to a table. -/
theorem rows_cons_of_comment (h : (trimEnd raw).head? = some '#') :
    Rows (raw :: ls) t t' ↔ Rows ls t t' := by
  obtain ⟨text, hraw⟩ := List.head?_eq_some_iff.1 h
  constructor
  · intro hrows
    cases hrows with
    | comment _ rest => exact rest
    | row adds => exact absurd (hraw ▸ adds) PointTable.Adds.ne_comment
  · exact .comment hraw

/-- Any other line adds a row. -/
theorem rows_cons_of_visible (h : (trimEnd raw).head? ≠ some '#') :
    Rows (raw :: ls) t t' ↔ ∃ m, t.Adds (trimEnd raw) m ∧ Rows ls m t' := by
  constructor
  · intro hrows
    cases hrows with
    | comment hraw => exact absurd (by rw [hraw]; rfl) h
    | row adds rest => exact ⟨_, adds, rest⟩
  · rintro ⟨m, adds, rest⟩
    exact .row adds rest

/-- Lines add the rows that they write, of different probes, in turn. -/
theorem rows_iff {before : List (Probe × List (String × UInt32))}
    (h : (before.map (·.1)).Nodup) :
    Rows ls (.ofRows before) t ↔ ∃ rows, List.Forall₂ PointTable.WritesRow (visibleRows ls) rows ∧
      ((before ++ rows).map (·.1)).Nodup ∧ t = .ofRows (before ++ rows) := by
  induction ls generalizing before with
  | nil =>
    constructor
    · intro hrows
      cases hrows
      exact ⟨[], .nil, by simpa using h, by simp⟩
    · rintro ⟨rows, hrows, -, rfl⟩
      obtain rfl := List.forall₂_nil_left_iff.1 hrows
      rw [List.append_nil]
      exact .nil _
  | cons raw ls ih =>
    by_cases hraw : (trimEnd raw).head? = some '#'
    · rw [rows_cons_of_comment hraw, ih h]
      simp [visibleRows, hraw]
    have hvisible : visibleRows (raw :: ls) = trimEnd raw :: visibleRows ls := by
      simp [visibleRows, hraw]
    have hnew (row : Probe × List (String × UInt32)) :
        ¬ (PointTable.ofRows before).contains row.1 ↔ ((before ++ [row]).map (·.1)).Nodup := by
      rw [PointTable.contains_ofRows_iff, List.map_append, List.map_singleton,
        ← List.concat_eq_append, List.nodup_concat, and_iff_left h]
    rw [rows_cons_of_visible hraw, hvisible]
    constructor
    · rintro ⟨m, hadds, hrest⟩
      obtain ⟨row, hwrites, hrow, rfl⟩ := PointTable.adds_iff.1 hadds
      rw [← PointTable.ofRows_concat, ih ((hnew row).1 hrow)] at hrest
      obtain ⟨rows, hrows, hnodup, rfl⟩ := hrest
      rw [List.append_assoc, List.singleton_append] at hnodup ⊢
      exact ⟨row :: rows, .cons hwrites hrows, hnodup, rfl⟩
    · rintro ⟨_, hrows, hnodup, rfl⟩
      cases hrows with
      | @cons _ row _ rows hwrites hrows =>
        rw [List.append_cons] at hnodup
        have hrow : ((before ++ [row]).map (·.1)).Nodup := by
          rw [List.map_append] at hnodup
          exact (List.nodup_append.1 hnodup).1
        refine ⟨_, PointTable.adds_iff.2 ⟨row, hwrites, (hnew row).2 hrow, rfl⟩, ?_⟩
        rw [← PointTable.ofRows_concat]
        exact (ih hrow).2 ⟨rows, hrows, hnodup, by rw [List.append_cons]⟩

end

namespace Reading

/-- Inside the point table lines that are not blank are read exactly if they are rows. -/
theorem runs_iff_rows {ls : List (List Char)} (visible : ∀ raw ∈ ls, trimEnd raw ≠ [])
    {r r' : Reading} {t : PointTable} (inside : r.table = some t) (n : Nat) :
    Runs ((ls.zipIdx n).map fun line => (trimEnd line.1, line.2)) r r' ↔
      ∃ t', Rows ls t t' ∧ r' = { r with table := some t' } := by
  constructor
  · intro hruns
    induction ls generalizing r t n with
    | nil =>
      obtain rfl := runs_nil_iff.1 hruns
      exact ⟨t, .nil t, by rw [← inside]⟩
    | cons raw ls ih =>
      obtain ⟨hraw, hls⟩ := List.forall_mem_cons.1 visible
      rw [List.zipIdx_cons, List.map_cons] at hruns
      obtain ⟨m, hmoves, hrest⟩ := runs_cons_iff.1 hruns
      dsimp only at hmoves
      generalize hcs : trimEnd raw = cs at hmoves hraw
      cases hmoves with
      | comment =>
        obtain ⟨t', hrows, hr'⟩ := ih hls inside (n + 1) hrest
        exact ⟨t', .comment hcs hrows, hr'⟩
      | @row _ _ table m inside' adds =>
        obtain rfl := Option.some.inj (inside.symm.trans inside')
        obtain ⟨t', hrows, rfl⟩ := ih hls rfl (n + 1) hrest
        exact ⟨t', .row (hcs ▸ adds) hrows, rfl⟩
      | tableEnd => exact absurd rfl hraw
      | heading outside | idle outside | close outside | extend outside =>
        cases outside.symm.trans inside
  · rintro ⟨t', hrows, rfl⟩
    exact runs_of_rows hrows inside n

end Reading

/-- Rows keep a table legal. -/
theorem Rows.legal {ls : List (List Char)} {t t' : PointTable} (h : Rows ls t t') (ht : t.Legal) :
    t'.Legal := by
  induction h with
  | nil => exact ht
  | comment _ _ ih => exact ih ht
  | row adds _ ih => exact ih (ht.adds adds)

/-! ## The table at the beginning of a text -/

/-- The lines of a text up to its first blank line, this one included. -/
def tableBlock (text : String) : List (List Char) :=
  (lines text.toList).takeWhile (trimEnd · ≠ []) ++
    ((lines text.toList).dropWhile (trimEnd · ≠ [])).take 1

/-- The lines after the first one, up to a blank line, without the comments. -/
def tableRows (text : String) : List (List Char) :=
  visibleRows ((lines text.toList).tail.takeWhile (trimEnd · ≠ []))

/-- The lines of a text that begins with the heading of a point table: the heading, lines that are
not blank, and from the first blank line on, if there is one, the others. -/
structure BeginsWithTable (text : String) (heading : List Char) (rows rest : List (List Char)) :
    Prop where
  lines_eq : lines text.toList = heading :: (rows ++ rest)
  heading : trimEnd heading = "MatchPoints".toList
  visible : ∀ raw ∈ rows, trimEnd raw ≠ []
  blank : ∀ raw ∈ rest.head?, trimEnd raw = []

theorem exists_beginsWithTable {text : String}
    (h : (lines text.toList).head?.map trimEnd = some "MatchPoints".toList) :
    ∃ heading rows rest, BeginsWithTable text heading rows rest := by
  obtain ⟨heading, hhead, hheading⟩ := Option.map_eq_some_iff.1 h
  obtain ⟨ls, hls⟩ := List.head?_eq_some_iff.1 hhead
  refine ⟨heading, ls.takeWhile (trimEnd · ≠ []), ls.dropWhile (trimEnd · ≠ []), ?_, hheading,
    ?_, ?_⟩
  · rw [hls, List.takeWhile_append_dropWhile]
  · intro raw hraw
    simpa using List.mem_takeWhile_imp hraw
  · intro raw hraw
    have hne := List.head?_dropWhile_not (fun raw => decide (trimEnd raw ≠ [])) ls
    rw [hraw] at hne
    simpa using hne

section
variable {text source : String} {heading : List Char} {rows rest : List (List Char)} {r : Reading}
  {d : Database} {fault : Fault} (h : BeginsWithTable text heading rows rest)
include h

namespace BeginsWithTable

/-- The first blank line ends the rows. -/
theorem takeWhile_rest : rest.takeWhile (trimEnd · ≠ []) = [] ∧
    rest.dropWhile (trimEnd · ≠ []) = rest := by
  have hblank := h.blank
  cases rest with
  | nil => exact ⟨rfl, rfl⟩
  | cons last after =>
    have hlast : trimEnd last = [] := hblank last rfl
    constructor
    · rw [List.takeWhile_cons_of_neg (by simp [hlast])]
    · rw [List.dropWhile_cons_of_neg (by simp [hlast])]

theorem tableBlock_eq : tableBlock text = heading :: (rows ++ rest.take 1) := by
  have hheading : trimEnd heading ≠ [] := by
    rw [h.heading]
    decide
  have hlines : ∀ raw ∈ heading :: rows, trimEnd raw ≠ [] :=
    List.forall_mem_cons.2 ⟨hheading, h.visible⟩
  have hvisible : ∀ raw ∈ heading :: rows, decide (trimEnd raw ≠ []) = true := fun raw hraw =>
    decide_eq_true (hlines raw hraw)
  obtain ⟨htake, hdrop⟩ := h.takeWhile_rest
  rw [tableBlock, h.lines_eq, ← List.cons_append, List.takeWhile_append_of_pos hvisible, htake,
    List.dropWhile_append_of_pos hvisible, hdrop, List.append_nil, List.cons_append]

theorem tableRows_eq : tableRows text = visibleRows rows := by
  have hrows : ∀ raw ∈ rows, decide (trimEnd raw ≠ []) = true := fun raw hraw =>
    decide_eq_true (h.visible raw hraw)
  rw [tableRows, h.lines_eq, List.tail_cons, List.takeWhile_append_of_pos hrows,
    h.takeWhile_rest.1, List.append_nil]

/-- A line after the first one is blank exactly if there are lines from a blank one on. -/
theorem exists_blank_iff : (∃ raw ∈ (lines text.toList).tail, trimEnd raw = []) ↔ rest ≠ [] := by
  rw [h.lines_eq, List.tail_cons]
  constructor
  · rintro ⟨raw, hraw, hblank⟩ rfl
    rw [List.append_nil] at hraw
    exact h.visible raw hraw hblank
  · intro hne
    obtain ⟨last, after, rfl⟩ := List.exists_cons_of_ne_nil hne
    exact ⟨last, by simp, h.blank last rfl⟩

/-- The heading and the rows are read as a table that is not closed yet. -/
theorem runs_rows_iff :
    Reading.Runs (((heading :: rows).zipIdx 1).map fun line => (trimEnd line.1, line.2)) .start r ↔
      ∃ t, Rows rows .empty t ∧ r = { Reading.start with table := some t } := by
  rw [List.zipIdx_cons, List.map_cons, Reading.runs_cons_iff]
  dsimp only
  rw [h.heading]
  have hiff := @Reading.runs_iff_rows rows h.visible { Reading.start with table := some .empty } r
    .empty rfl 2
  constructor
  · rintro ⟨m, hheading, hrows⟩
    obtain ⟨-, rfl⟩ := hheading.heading_inv rfl
    exact hiff.1 hrows
  · intro hrows
    exact ⟨_, .heading rfl rfl, hiff.2 hrows⟩

/-- The blank line closes it. -/
theorem runs_block_iff {last : List Char} (hlast : trimEnd last = []) :
    Reading.Runs (((heading :: (rows ++ [last])).zipIdx 1).map
        fun line => (trimEnd line.1, line.2)) .start r ↔
      ∃ t, Rows rows .empty t ∧ r = { Reading.start with points := some t } := by
  rw [← List.cons_append, List.zipIdx_append, List.map_append, List.zipIdx_singleton,
    List.map_singleton, Reading.runs_concat_iff]
  simp only [h.runs_rows_iff, hlast]
  constructor
  · rintro ⟨_, ⟨t, hrows, rfl⟩, hend⟩
    rcases hend.inside rfl with ⟨hne, -⟩ | ⟨-, rfl⟩
    · exact absurd rfl hne
    · exact ⟨t, hrows, rfl⟩
  · rintro ⟨t, hrows, rfl⟩
    exact ⟨_, ⟨t, hrows, rfl⟩, .tableEnd rfl⟩

/-- The lines of a table are a database without a record exactly if they are rows and a blank line
closes them. -/
theorem outcome_ofLines_tableBlock_iff :
    (ofLines source (tableBlock text)).outcome = .ok d ↔
      rest ≠ [] ∧ ∃ t, Rows rows .empty t ∧ d = ⟨[], t⟩ := by
  rw [outcome_ofLines_eq_ok_iff, h.tableBlock_eq]
  have hblank := h.blank
  cases rest with
  | nil =>
    rw [List.take_nil, List.append_nil]
    simp only [h.runs_rows_iff]
    constructor
    · rintro ⟨_, ⟨t, -, rfl⟩, hopen, -⟩
      cases hopen
    · rintro ⟨hne, -⟩
      exact absurd rfl hne
  | cons last after =>
    rw [List.take_succ_cons, List.take_zero]
    simp only [h.runs_block_iff (hblank last rfl)]
    constructor
    · rintro ⟨_, ⟨t, hrows, rfl⟩, -, r', hend, hpoints, hfingerprints⟩
      rcases (Reading.moves_nil_iff rfl).1 hend with ⟨-, rfl⟩ | ⟨_, _, hdraft, -⟩
      · obtain ⟨fingerprints, points⟩ := d
        obtain rfl : [] = fingerprints := hfingerprints
        obtain rfl : t = points := Option.some.inj hpoints
        exact ⟨List.cons_ne_nil _ _, t, hrows, rfl⟩
      · cases hdraft
    · rintro ⟨-, t, hrows, rfl⟩
      exact ⟨_, ⟨t, hrows, rfl⟩, rfl, _, .idle rfl rfl, rfl, rfl⟩

/-- A text has the table that its first lines are. -/
theorem outcome_ofLines_of_ofText (hd : (ofText source text).outcome = .ok d) :
    (ofLines source (tableBlock text)).outcome = .ok ⟨[], d.points⟩ := by
  have hblank := h.blank
  have hlines := h.lines_eq
  have hblock := h.tableBlock_eq
  cases rest with
  | nil =>
    rw [List.take_nil, ← hlines] at hblock
    rw [ofText, ← hblock] at hd
    exact absurd rfl (h.outcome_ofLines_tableBlock_iff.1 hd).1
  | cons last after =>
    obtain ⟨r, hruns, houtside, r', hend, hpoints, -⟩ := outcome_ofText_eq_ok_iff.1 hd
    rw [numberedLines, hlines, List.append_cons, ← List.cons_append, List.zipIdx_append,
      List.map_append] at hruns
    obtain ⟨m, hread, hafter⟩ := Reading.runs_append_iff.1 hruns
    obtain ⟨t, hrows, rfl⟩ := (h.runs_block_iff (hblank last rfl)).1 hread
    have hkept := (hafter.withPoints (hafter.ne_heading rfl rfl) rfl none).1
    rw [← (hend.withPoints (by simp) houtside none).1, hpoints] at hkept
    obtain rfl : d.points = t := Option.some.inj hkept
    exact h.outcome_ofLines_tableBlock_iff.2 ⟨List.cons_ne_nil _ _, _, hrows, rfl⟩

/-- What is wrong with the first lines is wrong with the text. -/
theorem outcome_ofText_of_ofLines
    (hfault : (ofLines source (tableBlock text)).outcome = .error fault) :
    (ofText source text).outcome = .error fault := by
  have hblank := h.blank
  have hlines := h.lines_eq
  have hblock := h.tableBlock_eq
  cases rest with
  | nil =>
    rw [List.take_nil, ← hlines] at hblock
    rwa [ofText, ← hblock]
  | cons last after =>
    rw [List.take_succ_cons, List.take_zero] at hblock
    rw [hblock, ofLines] at hfault
    rcases Logged.outcome_bind_eq_error_iff.1 hfault with hread | ⟨m, hread, hfinish⟩
    · rw [ofText, hlines, List.append_cons, ← List.cons_append, ofLines, List.zipIdx_append,
        Logged.outcome_bind, Logged.outcome_foldl_append, hread]
      rfl
    · have hruns := Reading.outcome_foldl_step_eq_ok_iff.1 hread
      obtain ⟨t, -, rfl⟩ := (h.runs_block_iff (hblank last rfl)).1 hruns
      -- With the table closed and no record open the end of the lines is no fault.
      have hok := (@Reading.outcome_finish_eq_ok_iff source (heading :: (rows ++ [last])).length
        { Reading.start with points := some t } ⟨[], t⟩).2 ⟨rfl, _, .idle rfl rfl, rfl, rfl⟩
      cases hok.symm.trans hfinish

end BeginsWithTable

end

/-- **The text of a point table.** Let a text begin with the heading of a point table. The lines up
to its first blank line are accepted exactly if the blank line is there and every line between,
apart from comments, writes a row of another probe. Then they hold no record, the entries of the
table are those that are written, and the most that can be earned is what these are worth together,
in 64-bit words, too. A text that is accepted has this table, and one whose first lines are refused
is refused with the same fault. -/
theorem ofText_tableBlock (source : String) {text : String}
    (heading : (lines text.toList).head?.map trimEnd = some "MatchPoints".toList) :
    ((∃ d, (ofLines source (tableBlock text)).outcome = .ok d) ↔
      (∃ raw ∈ (lines text.toList).tail, trimEnd raw = []) ∧
        ∃ rows, List.Forall₂ PointTable.WritesRow (tableRows text) rows ∧
          (rows.map (·.1)).Nodup) ∧
    (∀ d rows, (ofLines source (tableBlock text)).outcome = .ok d →
      List.Forall₂ PointTable.WritesRow (tableRows text) rows →
        d.fingerprints = [] ∧ d.points.entries.Perm (PointTable.writtenEntries rows) ∧
          d.points.most = PointTable.worth (PointTable.writtenEntries rows) ∧
          d.points.wordMost.toNat = PointTable.worth (PointTable.writtenEntries rows)) ∧
    (∀ d, (ofText source text).outcome = .ok d →
      (ofLines source (tableBlock text)).outcome = .ok ⟨[], d.points⟩) ∧
    ∀ fault, (ofLines source (tableBlock text)).outcome = .error fault →
      (ofText source text).outcome = .error fault := by
  obtain ⟨first, ls, rest, h⟩ := exists_beginsWithTable heading
  have hrows (t : PointTable) : Rows ls .empty t ↔ ∃ rows,
      List.Forall₂ PointTable.WritesRow (tableRows text) rows ∧ (rows.map (·.1)).Nodup ∧
        t = .ofRows rows := by
    rw [h.tableRows_eq]
    exact @rows_iff ls t [] List.nodup_nil
  refine ⟨?_, fun d rows hd hwritten => ?_, fun d => h.outcome_ofLines_of_ofText,
    fun fault => h.outcome_ofText_of_ofLines⟩
  · rw [h.exists_blank_iff]
    simp only [h.outcome_ofLines_tableBlock_iff, hrows]
    constructor
    · rintro ⟨d, hclosed, t, ⟨rows, hwritten, hdistinct, -⟩, -⟩
      exact ⟨hclosed, rows, hwritten, hdistinct⟩
    · rintro ⟨hclosed, rows, hwritten, hdistinct⟩
      exact ⟨_, hclosed, _, ⟨rows, hwritten, hdistinct, rfl⟩, rfl⟩
  · obtain ⟨-, t, hread, rfl⟩ := h.outcome_ofLines_tableBlock_iff.1 hd
    have hlegal := hread.legal PointTable.legal_empty
    obtain ⟨rows', hwritten', hdistinct, rfl⟩ := (hrows t).1 hread
    obtain rfl : rows' = rows := by
      have hunique : Relator.RightUnique PointTable.WritesRow :=
        fun _ _ _ hwrites hwrites' => hwrites.unique hwrites'
      exact hunique.forall₂ hwritten' hwritten
    have htests : ∀ row ∈ rows', (row.2.map (·.1)).Nodup := by
      intro row hrow
      obtain ⟨cs, -, hwrites⟩ := exists_mem_of_forall₂ hwritten hrow
      exact hwrites.distinct
    have hmost := PointTable.most_ofRows hdistinct htests
    exact ⟨rfl, PointTable.perm_entries_ofRows hdistinct htests, hmost,
      hlegal.toNat_wordMost.trans hmost⟩

/-- A comment, blanks, a plus sign and leading zeros do not matter, and a row may hold the largest
number of 32 bits. Without the blank line the table is refused, and the text with it. -/
theorem ofText_tableBlock_two_rows :
    (∃ d, (ofLines "" (tableBlock "MatchPoints \n# points\nT1(R= +030%DF=0020\t) \r
SEQ(SP=4294967295)\n \nCPE x")).outcome = .ok d ∧
      d.points.entries.Perm [(.t1, "R", 30), (.t1, "DF", 20), (.seq, "SP", 4294967295)] ∧
      d.points.wordMost.toNat = 4294967345) ∧
    ∀ d, (ofText "" "MatchPoints\nT1(R=30)\n# no end\n").outcome ≠ .ok d := by
  constructor
  · generalize htext : "MatchPoints \n# points\nT1(R= +030%DF=0020\t) \r
SEQ(SP=4294967295)\n \nCPE x" = text
    have heading : (lines text.toList).head?.map trimEnd = some "MatchPoints".toList := by
      rw [← htext]
      decide +kernel
    have hblank : ∃ raw ∈ (lines text.toList).tail, trimEnd raw = [] :=
      ⟨[' '], by rw [← htext]; decide +kernel, rfl⟩
    have hlines : tableRows text =
        ["T1(R= +030%DF=0020\t)".toList, "SEQ(SP=4294967295)".toList] := by
      rw [← htext]
      decide +kernel
    have hr : PointRow.WritesEntry .t1 "R= +030".toList ("R", 30) :=
      ⟨" +030".toList, by decide, by decide, ['+'], "030".toList, by decide, .inr rfl, by decide,
        by simp, by decide⟩
    have hdf : PointRow.WritesEntry .t1 "DF=0020\t".toList ("DF", 20) :=
      ⟨"0020\t".toList, by decide, by decide, [], "0020".toList, by decide, .inl rfl, by decide,
        by simp, by decide⟩
    have hsp : PointRow.WritesEntry .seq "SP=4294967295".toList ("SP", 4294967295) :=
      ⟨"4294967295".toList, by decide, by decide, [], "4294967295".toList, by decide, .inl rfl,
        by decide, by simp, by decide⟩
    have hrows : List.Forall₂ PointTable.WritesRow (tableRows text)
        [(.t1, [("R", 30), ("DF", 20)]), (.seq, [("SP", 4294967295)])] := by
      rw [hlines]
      exact .cons ⟨⟨_, by decide, .cons hr (.cons hdf .nil)⟩, by decide, by decide, by decide⟩
        (.cons ⟨⟨_, by decide, .cons hsp .nil⟩, by decide, by decide, by decide⟩ .nil)
    obtain ⟨haccepted, htable, -, -⟩ := ofText_tableBlock "" heading
    obtain ⟨d, hd⟩ := haccepted.2 ⟨hblank, _, hrows, by decide⟩
    obtain ⟨-, hentries, -, hmost⟩ := htable d _ hd hrows
    exact ⟨d, hd, hentries, hmost⟩
  · intro d hd
    obtain ⟨haccepted, -, hpoints, -⟩ :=
      @ofText_tableBlock "" "MatchPoints\nT1(R=30)\n# no end\n" (by decide +kernel)
    obtain ⟨hblank, -⟩ := haccepted.1 ⟨_, hpoints d hd⟩
    exact absurd hblank (by decide +kernel)

end Database

end OsDetection
