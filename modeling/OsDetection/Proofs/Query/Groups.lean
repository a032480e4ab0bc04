import OsDetection.Database.Printer
import OsDetection.Proofs.Query.Layout

/-!
# The groups of a query

A query in writing is a sequence of groups, and a group is the name of a probe and entries in
brackets. This module says which groups may be written (`Group.WellFormed`), how (`Group.text`), and
what they report (`ofGroups`), all of it without reading. Where a name is given several times its
last entry counts, and stands where it was given last (`lastOfEach`); `lastOfEach_concat` is the
same from the other end, as a reader meets the entries.
-/

namespace OsDetection.Query

/-! ## The last of each name -/

/-- Of the entries that share a name, only the last. -/
def lastOfEach : Tests → Tests
  | [] => []
  | e :: es => if es.any (·.1 = e.1) then lastOfEach es else e :: lastOfEach es

@[simp] theorem lastOfEach_nil : lastOfEach [] = [] := rfl

/-- An entry that comes last takes the place of the earlier one of its name. -/
theorem lastOfEach_concat (es : Tests) (e : String × String) :
    lastOfEach (es ++ [e]) = (lastOfEach es).filter (·.1 ≠ e.1) ++ [e] := by
  induction es with
  | nil => simp [lastOfEach]
  | cons d es ih =>
    simp only [List.cons_append, lastOfEach, ih]
    by_cases hd : es.any (·.1 = d.1)
    · simp [hd]
    · by_cases hde : e.1 = d.1
      · simp [hd, hde]
      · simp [hd, hde, Ne.symm hde]

/-- A name that was given is never left without an entry. -/
@[simp] theorem lastOfEach_eq_nil_iff {es : Tests} : lastOfEach es = [] ↔ es = [] := by
  induction es using List.reverseRecOn with
  | nil => simp
  | append_singleton es e ih => simp [lastOfEach_concat]

theorem mem_of_mem_lastOfEach {es : Tests} {e : String × String} (h : e ∈ lastOfEach es) :
    e ∈ es := by
  induction es with
  | nil => exact h
  | cons d es ih =>
    simp only [lastOfEach] at h
    split at h
    · exact List.mem_cons_of_mem _ (ih h)
    · rcases List.mem_cons.1 h with rfl | h
      · exact List.mem_cons_self
      · exact List.mem_cons_of_mem _ (ih h)

/-- No name is left twice. -/
theorem nodup_lastOfEach (es : Tests) : ((lastOfEach es).map (·.1)).Nodup := by
  induction es with
  | nil => exact List.nodup_nil
  | cons d es ih =>
    simp only [lastOfEach]
    split
    · exact ih
    · next hd =>
      refine List.nodup_cons.2 ⟨fun hmem => hd ?_, ih⟩
      obtain ⟨e, he, heq⟩ := List.mem_map.1 hmem
      exact List.any_eq_true.2 ⟨e, mem_of_mem_lastOfEach he, by simpa using heq⟩

/-- Where no name is given twice, every entry is the last of its name. -/
theorem lastOfEach_eq_self {es : Tests} (h : (es.map (·.1)).Nodup) : lastOfEach es = es := by
  induction es with
  | nil => rfl
  | cons d es ih =>
    rw [List.map_cons, List.nodup_cons] at h
    have hd : ¬ es.any (·.1 = d.1) := by simpa using h.1
    rw [lastOfEach, if_neg hd, ih h.2]

/-! ## Groups in writing -/

/-- The entries of a group in writing, separated from each other. -/
def entriesText (es : Tests) : List Char :=
  ['%'].intercalate (es.map fun e => entryText e.1 e.2.toList)

/-- Entries in writing, each with a sign after it that more are to come. -/
def entriesBefore (es : Tests) : List Char :=
  es.flatMap fun e => entryText e.1 e.2.toList ++ ['%']

theorem entriesBefore_concat (es : Tests) (e : String × String) :
    entriesBefore (es ++ [e]) = entriesBefore es ++ (entryText e.1 e.2.toList ++ ['%']) := by
  simp [entriesBefore]

@[simp] theorem entriesText_singleton (e : String × String) :
    entriesText [e] = entryText e.1 e.2.toList := by
  simp [entriesText]

theorem entriesText_cons_cons (e d : String × String) (es : Tests) :
    entriesText (e :: d :: es) = entryText e.1 e.2.toList ++ '%' :: entriesText (d :: es) := by
  simp [entriesText, List.intercalate_cons_cons]

/-- The last entry has no sign after it. -/
theorem entriesText_concat (es : Tests) (e : String × String) :
    entriesText (es ++ [e]) = entriesBefore es ++ entryText e.1 e.2.toList := by
  induction es with
  | nil => simp [entriesBefore]
  | cons d es ih =>
    cases es with
    | nil => simp [entriesBefore, entriesText_cons_cons]
    | cons d' es =>
      rw [List.cons_append, List.cons_append, entriesText_cons_cons, ← List.cons_append, ih]
      simp [entriesBefore]

/-- What stands in a value stands among the entries. -/
theorem mem_entriesText {es : Tests} {e : String × String} (he : e ∈ es) {c : Char}
    (hc : c ∈ e.2.toList) : c ∈ entriesText es := by
  induction es with
  | nil => simp at he
  | cons d es ih =>
    cases es with
    | nil =>
      obtain rfl : e = d := by simpa using he
      simp [entryText, hc]
    | cons d' es =>
      rw [entriesText_cons_cons, List.mem_append, List.mem_cons]
      rcases List.mem_cons.1 he with rfl | he
      · exact .inl (by simp [entryText, hc])
      · exact .inr (.inr (ih he))

/-- A probe and the entries between the brackets of its group, each a name and a value. -/
structure Group where
  probe : Probe
  entries : Tests
  deriving DecidableEq, Repr

namespace Group

/-- Whether an entry may stand in the group of a probe. -/
structure Admits (probe : Probe) (e : String × String) : Prop where
  named : e.1 ≠ ""
  name : ∀ c ∈ e.1.toList, c.isAlphanum
  value : ∀ c ∈ e.2.toList, c ≠ '(' ∧ c ≠ ')' ∧ c ≠ '%'
  /-- The mark of silence is admitted in every group. -/
  known : probe.accepts e.1 ∨ e = (responsiveness, noAnswer)

instance (probe : Probe) (e : String × String) : Decidable (Admits probe e) :=
  decidable_of_iff
    (e.1 ≠ "" ∧ e.1.toList.all (·.isAlphanum) ∧
      e.2.toList.all (fun c => c ≠ '(' ∧ c ≠ ')' ∧ c ≠ '%') ∧
      (probe.accepts e.1 ∨ e = (responsiveness, noAnswer)))
    ⟨fun ⟨named, name, value, known⟩ =>
        ⟨named, List.all_eq_true.1 name, by simpa using value, known⟩,
      fun h => ⟨h.named, List.all_eq_true.2 h.name, by simpa using h.value, h.known⟩⟩

/-- The entries that count. -/
def kept (g : Group) : Tests := lastOfEach g.entries

theorem nodup_kept (g : Group) : (g.kept.map (·.1)).Nodup := nodup_lastOfEach g.entries

/-- Whether a group may be written: silence is reported alone. -/
structure WellFormed (g : Group) : Prop where
  admits : ∀ e ∈ g.entries, Admits g.probe e
  silence : (responsiveness, noAnswer) ∈ g.kept → g.kept = [(responsiveness, noAnswer)]

instance (g : Group) : Decidable g.WellFormed :=
  decidable_of_iff
    ((∀ e ∈ g.entries, Admits g.probe e) ∧
      ((responsiveness, noAnswer) ∈ g.kept → g.kept = [(responsiveness, noAnswer)]))
    ⟨fun ⟨admits, silence⟩ => ⟨admits, silence⟩, fun h => ⟨h.admits, h.silence⟩⟩

/-- A group in writing. -/
def text (g : Group) : List Char :=
  groupLine g.probe.name (g.entries.map fun e => entryText e.1 e.2.toList)

theorem text_eq (g : Group) :
    g.text = g.probe.name.toList ++ '(' :: (entriesText g.entries ++ [')']) := rfl

/-- What a group says about its probe. -/
def response (g : Group) : Response String :=
  if g.kept = [] ∨ g.kept = [(responsiveness, noAnswer)] then .silent
  else .answered (.ofList g.kept)

/-- What a group reports, in order. -/
def observations (g : Group) : List Observation :=
  if g.kept = [] ∨ g.kept = [(responsiveness, noAnswer)] then [.silence g.probe]
  else g.kept.map fun e => ⟨g.probe, e.1, e.2⟩

/-- A group that reports more than silence does not report silence. -/
theorem WellFormed.not_isSilence {g : Group} (hg : g.WellFormed)
    (hkept : ¬ (g.kept = [] ∨ g.kept = [(responsiveness, noAnswer)])) {e : String × String}
    (he : e ∈ g.kept) : ¬ (⟨g.probe, e.1, e.2⟩ : Observation).isSilence := by
  intro hsilent
  obtain ⟨test, value⟩ := e
  obtain ⟨rfl, rfl⟩ : test = responsiveness ∧ value = noAnswer := by
    simpa [Observation.silence] using Observation.isSilence_iff.1 hsilent
  exact hkept (.inr (hg.silence he))

end Group

/-- A query with one more group. -/
def addGroup (q : Query) (g : Group) : Query :=
  ⟨q.observations ++ g.observations, q.responses.insert g.probe g.response⟩

/-- The query that reports groups. -/
def ofGroups (gs : List Group) : Query :=
  gs.foldl addGroup .empty

@[simp] theorem ofGroups_nil : ofGroups [] = .empty := rfl

@[simp] theorem ofGroups_concat (gs : List Group) (g : Group) :
    ofGroups (gs ++ [g]) = addGroup (ofGroups gs) g := by
  simp [ofGroups]

/-- The observations of a query are those of its groups, in order. -/
theorem observations_ofGroups (gs : List Group) :
    (ofGroups gs).observations = gs.flatMap (·.observations) := by
  induction gs using List.reverseRecOn with
  | nil => rfl
  | append_singleton gs g ih => simp [addGroup, ih]

/-- A query has a response for the probes of its groups. -/
theorem contains_ofGroups {gs : List Group} {p : Probe} :
    (ofGroups gs).responses.contains p ↔ p ∈ gs.map (·.probe) := by
  induction gs using List.reverseRecOn with
  | nil => simp [Query.empty]
  | append_singleton gs g ih =>
    rw [ofGroups_concat, addGroup, Std.ExtTreeMap.contains_insert, Bool.or_eq_true, ih,
      List.map_append, List.mem_append, or_comm]
    simp [eq_comm (a := p)]

/-- A text spells groups if it is made of them, leaving blanks aside, and has no two groups of one
probe. -/
structure Spells (text : String) (gs : List Group) : Prop where
  text : Text.dropBlanks text.toList = gs.flatMap (·.text)
  wellFormed : ∀ g ∈ gs, g.WellFormed
  nodup : (gs.map (·.probe)).Nodup

instance (text : String) (gs : List Group) : Decidable (Spells text gs) :=
  decidable_of_iff
    (Text.dropBlanks text.toList = gs.flatMap (·.text) ∧ (∀ g ∈ gs, g.WellFormed) ∧
      (gs.map (·.probe)).Nodup)
    ⟨fun ⟨text, wellFormed, nodup⟩ => ⟨text, wellFormed, nodup⟩,
      fun h => ⟨h.text, h.wellFormed, h.nodup⟩⟩

/-- There are no blanks in groups that a text spells. -/
theorem Spells.visible {text : String} {gs : List Group} (h : Spells text gs) :
    ∀ c ∈ gs.flatMap (·.text), Text.isBlank c = false := by
  rw [← h.text]
  intro c hc
  simpa using (List.mem_filter.1 hc).2

end OsDetection.Query
