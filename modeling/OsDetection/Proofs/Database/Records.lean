import OsDetection.Proofs.Database.Moves

/-!
# Records

A record is a block of lines, none of them blank. `IsRecord` says which blocks are records: each of
their lines is of a kind that may stand there, one names the fingerprint, and there is one group for
every probe that counts. `Gives` says what fingerprint a record gives: the lines of each kind
determine a part of it, whatever their order. Both are shown of reading: what is read of a block is
described by its lines (`Drafted.grows`), and a block with nothing against it can be read
(`exists_grows`).
-/

namespace OsDetection

open OsDetection.Text

namespace Database

/-- Lines with their numbers, without final blanks. -/
abbrev Block := List (List Char × Nat)

/-! ## What the lines of a block say -/

/-- The text after a keyword on a line, without blanks around it. -/
def text? (key : String) (line : List Char × Nat) : Option String :=
  (Line.keyed? key line.1).map fun text => String.ofList (trim text)

/-- The probe of a group line, and the body of the group. -/
def group? (line : List Char × Nat) : Option (Probe × List Char) := do
  let (name, body) ← Line.group? line.1
  let probe ← Probe.ofName? (String.ofList name)
  return (probe, body)

/-- The lines that name a fingerprint, by their numbers, and the names. -/
def Block.titles (b : Block) : List (Nat × String) := b.filterMap title?

/-- The texts after a keyword, in order. -/
def Block.texts (key : String) (b : Block) : List String := b.filterMap (text? key)

/-- The probes that have a group, in order, and the bodies of the groups. -/
def Block.groups (b : Block) : List (Probe × List Char) := b.filterMap group?

/-- A line that may stand in a record. -/
inductive RecordLine : List Char → Prop
  | title (text : List Char) : RecordLine ("Fingerprint".toList ++ ' ' :: text)
  | classes (text : List Char) : RecordLine ("Class".toList ++ ' ' :: text)
  | cpe (text : List Char) : RecordLine ("CPE".toList ++ ' ' :: text)
  | group {probe : Probe} {body : List Char} {response : Response Pattern} (opened : '(' ∉ body)
    (closed : ')' ∉ body) (describes : Response.Describes probe body response) :
    RecordLine (probe.name.toList ++ '(' :: (body ++ [')']))

/-- Whether a block is a record. -/
structure IsRecord (b : Block) : Prop where
  lines : ∀ line ∈ b, RecordLine line.1
  title : b.titles.length = 1
  distinct : (b.groups.map (·.1)).Nodup
  complete : ∀ p, p ≠ .scan → p ∈ b.groups.map (·.1)

/-- The fingerprint that a record gives: the line of its title and the name there, the last classes
and the last identifier, and what the body of each group describes. -/
structure Gives (b : Block) (f : Fingerprint) : Prop where
  title : b.titles = [(f.line, f.name)]
  classes : f.classes = (b.texts "Class").getLast?.getD ""
  cpe : f.cpe = (b.texts "CPE").getLast?.getD ""
  responses : ∀ p r, f.response? p = some r ↔
    ∃ body, (p, body) ∈ b.groups ∧ Response.Describes p body r

/-! ## Lines read one after the other -/

/-- Lines added to a record in turn. -/
inductive Grows : Block → Draft → Draft → Prop
  | nil (d : Draft) : Grows [] d d
  | cons {line : List Char × Nat} {b : Block} {d m d' : Draft} (adds : d.Adds line.2 line.1 m)
    (rest : Grows b m d') : Grows (line :: b) d d'

/-- Lines that are added after others are added with them. -/
theorem Grows.append {b b' : Block} {d m d' : Draft} (h : Grows b d m) (h' : Grows b' m d') :
    Grows (b ++ b') d d' := by
  induction h with
  | nil => exact h'
  | cons adds _ ih => exact .cons adds (ih h')

/-- Lines that are added are not blank. -/
theorem Grows.visible {b : Block} {d d' : Draft} (h : Grows b d d') : ∀ line ∈ b, line.1 ≠ [] := by
  induction h with
  | nil => simp
  | cons adds _ ih => exact List.forall_mem_cons.2 ⟨adds.ne_nil, ih⟩

/-- A record without a name keeps the line that it began on. -/
theorem Grows.line_eq {b : Block} {d d' : Draft} (h : Grows b d d') (unnamed : d'.name = none) :
    d.name = none ∧ d'.line = d.line := by
  induction h with
  | nil => exact ⟨unnamed, rfl⟩
  | cons adds _ ih =>
    obtain ⟨hname, hline⟩ := ih unnamed
    obtain ⟨hname', hline'⟩ := adds.line_eq hname
    exact ⟨hname', hline.trans hline'⟩

/-- What was read of a block, as its lines say it. -/
structure Drafted (b : Block) (d : Draft) : Prop where
  lines : ∀ line ∈ b, RecordLine line.1
  titles : b.titles = d.titles
  classes : d.classes = (b.texts "Class").getLast?.getD ""
  cpe : d.cpe = (b.texts "CPE").getLast?.getD ""
  distinct : (b.groups.map (·.1)).Nodup
  responses : ∀ p (r : Response Pattern), d.responses[p]? = some r ↔
    ∃ body, (p, body) ∈ b.groups ∧ Response.Describes p body r

/-- Nothing was read of no lines. -/
theorem drafted_start (line : Nat) : Drafted [] (.start line) := by
  refine ⟨nofun, rfl, rfl, rfl, List.nodup_nil, fun p r => ?_⟩
  simp [Draft.start, Block.groups]

end Database

/-- A line that was added to a record may stand in it. -/
theorem Draft.Adds.recordLine {n : Nat} {cs : List Char} {d d' : Draft} (h : d.Adds n cs d') :
    Database.RecordLine cs := by
  cases h with
  | title text => exact .title text
  | classes text => exact .classes text
  | cpe text => exact .cpe text
  | group opened closed _ describes => exact .group opened closed describes

namespace Database

section
variable {n : Nat} {line : Line} {cs : List Char}

theorem text?_eq_some (key : String) (text : List Char) :
    text? key (key.toList ++ ' ' :: text, n) = some (String.ofList (trim text)) := by
  rw [text?, Line.keyed?_eq_some_iff.2 rfl, Option.map_some]

theorem text?_class_eq_none (h : Line.Says cs line) (hline : ∀ text, line ≠ .classes text) :
    text? "Class" (cs, n) = none := by
  rw [text?, h.keyed?_class hline, Option.map_none]

theorem text?_cpe_eq_none (h : Line.Says cs line) (hline : ∀ text, line ≠ .cpe text) :
    text? "CPE" (cs, n) = none := by
  rw [text?, h.keyed?_cpe hline, Option.map_none]

theorem group?_eq_none (h : Line.Says cs line) (hline : ∀ name body, line ≠ .group name body) :
    group? (cs, n) = none := by
  rw [group?, h.group? hline, Option.bind_eq_bind, Option.bind_none]

theorem group?_eq_some {probe : Probe} {body : List Char} (opened : '(' ∉ body)
    (closed : ')' ∉ body) :
    group? (probe.name.toList ++ '(' :: (body ++ [')']), n) = some (probe, body) := by
  have hgroup := Line.group?_eq_some_iff.2 ⟨rfl, probe.toList_name_ne_nil,
    List.all_eq_true.2 probe.isAlphanum_name, opened, closed⟩
  simp [group?, hgroup]

end

/-- The body of a group that may stand in a record describes a response. -/
theorem exists_describes {b : Block} (h : ∀ line ∈ b, RecordLine line.1) {p : Probe}
    {body : List Char} (hmem : (p, body) ∈ b.groups) : ∃ r, Response.Describes p body r := by
  obtain ⟨⟨cs, n⟩, hline, hgroup⟩ := List.mem_filterMap.1 hmem
  have recordLine : RecordLine cs := h _ hline
  cases recordLine with
  | title text => rw [group?_eq_none (.title text) nofun] at hgroup; exact nomatch hgroup
  | classes text => rw [group?_eq_none (.classes text) nofun] at hgroup; exact nomatch hgroup
  | cpe text => rw [group?_eq_none (.cpe text) nofun] at hgroup; exact nomatch hgroup
  | group opened closed describes =>
    rw [group?_eq_some opened closed] at hgroup
    cases hgroup
    exact ⟨_, describes⟩

/-- What was read of a block has a response for the probes that have a group there. -/
theorem Drafted.contains_iff {b : Block} {d : Draft} (h : Drafted b d) {p : Probe} :
    d.responses.contains p ↔ p ∈ b.groups.map (·.1) := by
  rw [Std.ExtTreeMap.contains_eq_isSome_getElem?, Option.isSome_iff_exists, List.mem_map]
  refine ⟨fun hread => ?_, fun hgroup => ?_⟩
  · obtain ⟨r, hr⟩ := hread
    obtain ⟨body, hmem, -⟩ := (h.responses p r).1 hr
    exact ⟨_, hmem, rfl⟩
  · obtain ⟨⟨p, body⟩, hmem, rfl⟩ := hgroup
    obtain ⟨r, hr⟩ := exists_describes h.lines hmem
    exact ⟨r, (h.responses p r).2 ⟨body, hmem, hr⟩⟩

/-- The last text of a block with one more line is that line's, if it has one. -/
theorem getLast?_append_toList {α : Type} (as : List α) (a? : Option α) (a : α) :
    (as ++ a?.toList).getLast?.getD a = a?.getD (as.getLast?.getD a) := by
  cases a? <;> simp

/-- What was read of a block stays described by its lines if another line is added to each part that
it belongs to. -/
theorem Drafted.concat {b : Block} {d d' : Draft} {line : List Char × Nat} (h : Drafted b d)
    (recordLine : RecordLine line.1) (titles : d'.titles = d.titles ++ (title? line).toList)
    (classes : d'.classes = (text? "Class" line).getD d.classes)
    (cpe : d'.cpe = (text? "CPE" line).getD d.cpe)
    (responses : group? line = none ∧ d'.responses = d.responses ∨
      ∃ p body r, group? line = some (p, body) ∧ ¬ d.responses.contains p ∧
        Response.Describes p body r ∧ d'.responses = d.responses.insert p r) :
    Drafted (b ++ [line]) d' := by
  refine ⟨?_, ?_, ?_, ?_, ?_, ?_⟩
  · intro line' hline
    rcases List.mem_append.1 hline with hline | hline
    · exact h.lines line' hline
    · exact List.mem_singleton.1 hline ▸ recordLine
  · rw [Block.titles, filterMap_concat, titles, ← h.titles, Block.titles]
  · rw [Block.texts, filterMap_concat, getLast?_append_toList, classes, h.classes, Block.texts]
  · rw [Block.texts, filterMap_concat, getLast?_append_toList, cpe, h.cpe, Block.texts]
  · rw [Block.groups, filterMap_concat, List.map_append, List.nodup_append]
    refine ⟨h.distinct, by cases group? line <;> simp, ?_⟩
    rcases responses with ⟨hnone, -⟩ | ⟨p, body, r, hsome, hnew, -, -⟩
    · simp [hnone]
    · rintro p' hp' _ hp rfl
      obtain rfl : p' = p := by simpa [hsome] using hp
      exact hnew (h.contains_iff.2 hp')
  · intro p' r'
    rw [Block.groups, filterMap_concat]
    rcases responses with ⟨hnone, heq⟩ | ⟨p, body, r, hsome, hnew, describes, heq⟩
    · rw [hnone, heq, Option.toList_none, List.append_nil]
      exact h.responses p' r'
    · rw [hsome, heq, Std.ExtTreeMap.getElem?_insert]
      simp only [Option.toList_some, List.mem_append, List.mem_singleton, Prod.mk.injEq]
      split
      · next hp =>
        obtain rfl : p = p' := by simpa using hp
        refine ⟨?_, fun hgroup => ?_⟩
        · rintro hr
          cases hr
          exact ⟨body, .inr ⟨rfl, rfl⟩, describes⟩
        · obtain ⟨body', hmem | ⟨-, rfl⟩, hr⟩ := hgroup
          · exact absurd (h.contains_iff.2 (List.mem_map.2 ⟨_, hmem, rfl⟩)) hnew
          · rw [describes.unique hr]
      · next hp =>
        have hne : p' ≠ p := by
          rintro rfl
          simp at hp
        rw [h.responses p' r']
        simp [hne, Block.groups]

/-- What was read of a block stays described by its lines when one is added. -/
theorem Drafted.adds {b : Block} {d d' : Draft} {cs : List Char} {n : Nat} (h : Drafted b d)
    (hadds : d.Adds n cs d') : Drafted (b ++ [(cs, n)]) d' := by
  refine h.concat hadds.recordLine ?_ ?_ ?_ ?_
  · cases hadds with
    | title text unnamed =>
      rw [title?_title]
      simp [Draft.titles, unnamed]
    | classes text =>
      rw [title?_eq_none (.classes text) nofun]
      simp [Draft.titles]
    | cpe text =>
      rw [title?_eq_none (.cpe text) nofun]
      simp [Draft.titles]
    | @group _ probe _ _ opened closed =>
      rw [title?_eq_none (.ofProbe probe opened closed) nofun]
      simp [Draft.titles]
  · cases hadds with
    | title text unnamed => rw [text?_class_eq_none (.title text) nofun, Option.getD_none]
    | classes text => rw [text?_eq_some "Class" text, Option.getD_some]
    | cpe text => rw [text?_class_eq_none (.cpe text) nofun, Option.getD_none]
    | @group _ probe _ _ opened closed =>
      rw [text?_class_eq_none (.ofProbe probe opened closed) nofun, Option.getD_none]
  · cases hadds with
    | title text unnamed => rw [text?_cpe_eq_none (.title text) nofun, Option.getD_none]
    | classes text => rw [text?_cpe_eq_none (.classes text) nofun, Option.getD_none]
    | cpe text => rw [text?_eq_some "CPE" text, Option.getD_some]
    | @group _ probe _ _ opened closed =>
      rw [text?_cpe_eq_none (.ofProbe probe opened closed) nofun, Option.getD_none]
  · cases hadds with
    | title text => exact .inl ⟨group?_eq_none (.title text) nofun, rfl⟩
    | classes text => exact .inl ⟨group?_eq_none (.classes text) nofun, rfl⟩
    | cpe text => exact .inl ⟨group?_eq_none (.cpe text) nofun, rfl⟩
    | @group _ probe body response opened closed new describes =>
      exact .inr ⟨probe, body, response, group?_eq_some opened closed, new, describes, rfl⟩

/-- What is read of more lines is described by all of them. -/
theorem Drafted.grows {b b' : Block} {d d' : Draft} (h : Drafted b d) (hgrows : Grows b' d d') :
    Drafted (b ++ b') d' := by
  induction hgrows generalizing b with
  | nil => simpa using h
  | cons adds _ ih =>
    rw [List.append_cons]
    exact ih (h.adds adds)

/-! ## Reading a block -/

/-- A line can be added to a record if it may stand there, and the record has no title or group that
it would repeat. -/
theorem Drafted.exists_adds {b : Block} {d : Draft} {cs : List Char} {n : Nat} (h : Drafted b d)
    (recordLine : RecordLine cs) (title : (b ++ [(cs, n)]).titles.length ≤ 1)
    (distinct : ((b ++ [(cs, n)]).groups.map (·.1)).Nodup) : ∃ d', d.Adds n cs d' := by
  cases recordLine with
  | title text =>
    have hnone : b.titles = [] := by
      rw [Block.titles, filterMap_concat, title?_title] at title
      simpa [Block.titles] using title
    have hunnamed : d.name = none := by
      rw [h.titles] at hnone
      simpa [Draft.titles] using hnone
    exact ⟨_, .title text hunnamed⟩
  | classes text => exact ⟨_, .classes text d⟩
  | cpe text => exact ⟨_, .cpe text d⟩
  | @group probe body response opened closed describes =>
    have hnew : ¬ d.responses.contains probe := by
      rw [h.contains_iff]
      rw [Block.groups, filterMap_concat, group?_eq_some opened closed, List.map_append] at distinct
      intro hmem
      exact (List.nodup_append.1 distinct).2.2 probe hmem probe (by simp) rfl
    exact ⟨_, .group opened closed hnew describes⟩

/-- Lines can be added to a record in turn if they may stand there, and the record and they have no
title or group repeated. -/
theorem exists_grows {b b' : Block} {d : Draft} (h : Drafted b d)
    (lines : ∀ line ∈ b', RecordLine line.1) (title : (b ++ b').titles.length ≤ 1)
    (distinct : ((b ++ b').groups.map (·.1)).Nodup) : ∃ d', Grows b' d d' := by
  induction b' generalizing b d with
  | nil => exact ⟨d, .nil d⟩
  | cons line b' ih =>
    obtain ⟨cs, n⟩ := line
    rw [List.append_cons] at title distinct
    have hfirst : (b ++ [(cs, n)]).titles.length ≤ 1 := by
      rw [Block.titles, List.filterMap_append, List.length_append] at title
      exact Nat.le_trans (Nat.le_add_right _ _) title
    have hdistinct : ((b ++ [(cs, n)]).groups.map (·.1)).Nodup := by
      rw [Block.groups, List.filterMap_append, List.map_append] at distinct
      exact (List.nodup_append.1 distinct).1
    obtain ⟨m, hm⟩ := h.exists_adds (lines (cs, n) (by simp)) hfirst hdistinct
    obtain ⟨d', hd'⟩ :=
      ih (h.adds hm) (fun line hline => lines line (by simp [hline])) title distinct
    exact ⟨d', .cons hm hd'⟩

/-- A block is read from its first line on, and gives a fingerprint when it is closed. -/
def ReadAs (b : Block) (f : Fingerprint) : Prop :=
  ∃ line d, b.head? = some line ∧ Grows b (.start line.2) d ∧ d.close = .ok f

/-- A block that gives a fingerprint is a record, and the fingerprint is the one that its lines
say. -/
theorem ReadAs.isRecord_and_gives {b : Block} {f : Fingerprint} (h : ReadAs b f) :
    IsRecord b ∧ Gives b f := by
  obtain ⟨line, d, -, hgrows, hclose⟩ := h
  have hdrafted : Drafted b d := (drafted_start line.2).grows hgrows
  obtain ⟨name, hname, rfl, hcomplete⟩ := Draft.close_eq_ok_iff.1 hclose
  have htitles : b.titles = [(d.line, name)] := by simp [hdrafted.titles, Draft.titles, hname]
  refine ⟨⟨hdrafted.lines, by simp [htitles], hdrafted.distinct, fun p hp => ?_⟩,
    ⟨htitles, hdrafted.classes, hdrafted.cpe, hdrafted.responses⟩⟩
  exact hdrafted.contains_iff.1 (hcomplete p hp)

/-- A record gives a fingerprint. -/
theorem IsRecord.exists_readAs {b : Block} (h : IsRecord b) : ∃ f, ReadAs b f := by
  cases b with
  | nil => exact absurd h.title (by simp [Block.titles])
  | cons line b =>
    obtain ⟨d, hgrows⟩ := exists_grows (drafted_start line.2) h.lines h.title.le h.distinct
    have hdrafted : Drafted (line :: b) d := (drafted_start line.2).grows hgrows
    obtain ⟨name, hname⟩ : ∃ name, d.name = some name := by
      have htitle := h.title
      rw [hdrafted.titles, Draft.titles, List.length_map] at htitle
      exact Option.isSome_iff_exists.1 (by cases hd : d.name <;> simp [hd] at htitle ⊢)
    have hcomplete (p : Probe) (hp : p ≠ .scan) : d.responses.contains p :=
      hdrafted.contains_iff.2 (h.complete p hp)
    exact ⟨_, line, d, rfl, hgrows, Draft.close_eq_ok_iff.2 ⟨name, hname, rfl, hcomplete⟩⟩

end Database

end OsDetection
