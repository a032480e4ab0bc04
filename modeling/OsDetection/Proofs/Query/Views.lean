import OsDetection.Proofs.Database.Bodies
import OsDetection.Proofs.Query.Grammar

/-!
# The two views of a query

A query lists its observations in order, and has the same by probe. Both views are made from the
groups of its text, one after the other: the observations of a probe are those of its group
(`observationsOf_ofGroups`), and so is its response (`response?_ofGroups`). What the views have in
common is stated of a query alone, without its groups, as `Coherent`, and holds of every query that
is read (`ofText_coherent`).
-/

namespace OsDetection

open OsDetection.Text

namespace Response

/-- The values of tests that an observed response reports. Silence is one of them. -/
def observed : Response String → TestMap String
  | silent => .ofList [(responsiveness, noAnswer)]
  | answered values => values

end Response

namespace Query

/-- What a query observes of a probe, in order. -/
def observationsOf (q : Query) (p : Probe) : List Observation :=
  q.observations.filter (·.probe = p)

/-- The observations of a query and its responses say the same. -/
structure Coherent (q : Query) : Prop where
  /-- No test of a probe is observed twice. -/
  distinct : (q.observations.map fun o => (o.probe, o.test)).Nodup
  /-- The observations of a probe come one right after the other. -/
  together : ∀ p, q.observationsOf p <:+: q.observations
  /-- The probes with a response are those that something is observed of. -/
  mentioned : ∀ p, p ∈ q.probes ↔ q.observationsOf p ≠ []
  silent : ∀ p, q.response? p = some .silent ↔ q.observationsOf p = [.silence p]
  /-- The values of an answered probe are those observed. -/
  answered : ∀ p values, q.response? p = some (.answered values) →
    values ≠ ∅ ∧ ((q.observationsOf p).map fun o => (o.test, o.value)).Perm values.toList
  /-- What is observed of an answered probe may stand in its group, without blanks, and is not that
  there was no answer. -/
  legal : ∀ p values, q.response? p = some (.answered values) → ∀ o ∈ q.observationsOf p,
    ¬ o.isSilence ∧ p.accepts o.test ∧
      ∀ c ∈ o.value.toList, isBlank c = false ∧ c ≠ '(' ∧ c ≠ ')' ∧ c ≠ '%'

/-! ## Groups -/

/-- A group observes its own probe. -/
theorem Group.probe_of_mem_observations (g : Group) {o : Observation} (h : o ∈ g.observations) :
    o.probe = g.probe := by
  unfold observations at h
  split at h
  · rw [List.mem_singleton.1 h]
    rfl
  · obtain ⟨e, -, rfl⟩ := List.mem_map.1 h
    rfl

/-- A group observes something. -/
theorem Group.observations_ne_nil (g : Group) : g.observations ≠ [] := by
  unfold observations
  split
  · exact List.cons_ne_nil _ _
  · next hkept => simpa using mt Or.inl hkept

/-- No test is observed twice in a group. -/
theorem Group.nodup_tests_observations (g : Group) :
    (g.observations.map fun o => (o.probe, o.test)).Nodup := by
  unfold observations
  split
  · exact List.nodup_singleton _
  · have h := g.nodup_kept.map (f := (g.probe, ·)) fun _ _ h => (Prod.mk.inj h).2
    rw [List.map_map] at h ⊢
    exact h

/-- A group is silent exactly if silence is all that it observes. -/
theorem Group.response_eq_silent_iff {g : Group} :
    g.response = .silent ↔ g.observations = [.silence g.probe] := by
  unfold response observations
  split
  · simp
  · next hkept =>
    refine ⟨nofun, fun h => absurd (.inr ?_) hkept⟩
    obtain ⟨⟨test, value⟩, he, hsilence⟩ := List.map_eq_singleton_iff.1 h
    cases hsilence
    exact he

/-- What the response of an answered group holds, and what is observed of it. -/
theorem Group.response_eq_answered_iff {g : Group} {values : TestMap String} :
    g.response = .answered values ↔
      ¬ (g.kept = [] ∨ g.kept = [(responsiveness, noAnswer)]) ∧ values = .ofList g.kept := by
  unfold response
  split
  · next hkept => simp [hkept]
  · next hkept =>
    rw [Response.answered.injEq]
    exact ⟨fun h => ⟨hkept, h.symm⟩, fun h => h.2.symm⟩

/-- A group reports the values of its response. -/
theorem Group.mem_observations_iff {g : Group} {o : Observation} :
    o ∈ g.observations ↔ g.probe = o.probe ∧ g.response.observed[o.test]? = some o.value := by
  obtain ⟨p, test, value⟩ := o
  unfold observations response
  split
  · have hnames : ([(responsiveness, noAnswer)].map Prod.fst).Nodup := List.nodup_singleton _
    rw [Response.observed, getElem?_ofList_eq_some_iff hnames]
    simp [Observation.silence, eq_comm]
  · rw [Response.observed, getElem?_ofList_eq_some_iff g.nodup_kept]
    simp [and_comm]

/-! ## Queries -/

/-- The probes of a query are those of its groups. -/
theorem perm_probes_ofGroups {gs : List Group} (h : (gs.map (·.probe)).Nodup) :
    (ofGroups gs).probes.Perm (gs.map (·.probe)) := by
  refine (List.perm_ext_iff_of_nodup Std.ExtTreeMap.nodup_keys h).2 fun p => ?_
  rw [← contains_ofGroups, Std.ExtTreeMap.mem_keys, Std.ExtTreeMap.contains_iff_mem]

/-- A query has the response of each of its groups. -/
theorem response?_ofGroups {gs : List Group} (h : (gs.map (·.probe)).Nodup) {g : Group}
    (hg : g ∈ gs) : (ofGroups gs).response? g.probe = some g.response := by
  induction gs using List.reverseRecOn with
  | nil => exact nomatch hg
  | append_singleton gs g' ih =>
    rw [List.map_append, List.nodup_append] at h
    rw [ofGroups_concat, addGroup, response?, Std.ExtTreeMap.getElem?_insert]
    rcases List.mem_append.1 hg with hg | hg
    · have hne : g'.probe ≠ g.probe := fun heq =>
        h.2.2 _ (List.mem_map_of_mem hg) g'.probe (by simp) heq.symm
      rw [if_neg (by simpa using hne)]
      exact ih h.1 hg
    · obtain rfl := List.mem_singleton.1 hg
      simp

/-- And none of other probes. -/
theorem response?_ofGroups_eq_none_iff {gs : List Group} {p : Probe} :
    (ofGroups gs).response? p = none ↔ p ∉ gs.map (·.probe) := by
  rw [← contains_ofGroups, Std.ExtTreeMap.contains_eq_isSome_getElem?,
    Option.not_isSome_iff_eq_none, response?]

/-- A response of a query is that of a group. -/
theorem exists_mem_of_response? {gs : List Group} (h : (gs.map (·.probe)).Nodup) {p : Probe}
    {r : Response String} (hr : (ofGroups gs).response? p = some r) :
    ∃ g ∈ gs, g.probe = p ∧ g.response = r := by
  have hp : p ∈ gs.map (·.probe) := by
    by_contra hp
    rw [response?_ofGroups_eq_none_iff.2 hp] at hr
    cases hr
  obtain ⟨g, hg, rfl⟩ := List.mem_map.1 hp
  exact ⟨g, hg, rfl, Option.some.inj ((response?_ofGroups h hg).symm.trans hr)⟩

/-- A query reports the values of its responses. -/
theorem mem_observations_ofGroups_iff {gs : List Group} (h : (gs.map (·.probe)).Nodup)
    {o : Observation} :
    o ∈ (ofGroups gs).observations ↔
      ∃ r, (ofGroups gs).response? o.probe = some r ∧ r.observed[o.test]? = some o.value := by
  rw [observations_ofGroups, List.mem_flatMap]
  constructor
  · rintro ⟨g, hg, ho⟩
    obtain ⟨hprobe, hvalue⟩ := Group.mem_observations_iff.1 ho
    exact ⟨g.response, hprobe ▸ response?_ofGroups h hg, hvalue⟩
  · rintro ⟨r, hr, hvalue⟩
    obtain ⟨g, hg, hprobe, rfl⟩ := exists_mem_of_response? h hr
    exact ⟨g, hg, Group.mem_observations_iff.2 ⟨hprobe, hvalue⟩⟩

/-! ## What the views have in common -/

section
variable {gs : List Group} {p : Probe} {g : Group}

/-- What a query observes of the probe of a group is what the group observes, and it does so one
right after the other. -/
theorem observationsOf_ofGroups (h : (gs.map (·.probe)).Nodup) (hg : g ∈ gs) :
    (ofGroups gs).observationsOf g.probe = g.observations ∧
      g.observations <:+: (ofGroups gs).observations := by
  obtain ⟨before, after, rfl⟩ := List.append_of_mem hg
  rw [List.map_append, List.map_cons, List.nodup_middle, List.nodup_cons, ← List.map_append] at h
  have hother : ∀ g' ∈ before ++ after, g'.observations.filter (·.probe = g.probe) = [] := by
    intro g' hg'
    refine List.filter_eq_nil_iff.2 fun o ho hprobe => h.1 (List.mem_map.2 ⟨g', hg', ?_⟩)
    rw [← g'.probe_of_mem_observations ho]
    exact of_decide_eq_true hprobe
  have hown : g.observations.filter (·.probe = g.probe) = g.observations :=
    List.filter_eq_self.2 fun o ho => decide_eq_true (g.probe_of_mem_observations ho)
  obtain ⟨hbefore, hafter⟩ := List.forall_mem_append.1 hother
  rw [observationsOf, observations_ofGroups, List.flatMap_append, List.flatMap_cons]
  constructor
  · rw [List.filter_append, List.filter_append, List.filter_flatMap, List.filter_flatMap, hown,
      List.flatMap_eq_nil_iff.2 hbefore, List.flatMap_eq_nil_iff.2 hafter, List.nil_append,
      List.append_nil]
  · exact ⟨before.flatMap (·.observations), after.flatMap (·.observations), List.append_assoc ..⟩

/-- A query observes nothing of a probe that has no group. -/
theorem observationsOf_ofGroups_eq_nil (hp : p ∉ gs.map (·.probe)) :
    (ofGroups gs).observationsOf p = [] := by
  rw [observationsOf, observations_ofGroups, List.filter_eq_nil_iff]
  intro o ho hprobe
  obtain ⟨g, hg, ho⟩ := List.mem_flatMap.1 ho
  refine hp (List.mem_map.2 ⟨g, hg, ?_⟩)
  rw [← g.probe_of_mem_observations ho]
  exact of_decide_eq_true hprobe

/-- No test of a probe is observed twice in a query. -/
theorem nodup_tests_ofGroups (h : (gs.map (·.probe)).Nodup) :
    ((ofGroups gs).observations.map fun o => (o.probe, o.test)).Nodup := by
  rw [observations_ofGroups, List.map_flatMap, List.nodup_flatMap]
  refine ⟨fun g _ => g.nodup_tests_observations, (List.pairwise_map.1 h).imp ?_⟩
  intro g g' hne key hkey hkey'
  obtain ⟨o, ho, rfl⟩ := List.mem_map.1 hkey
  obtain ⟨o', ho', heq⟩ := List.mem_map.1 hkey'
  refine hne ?_
  rw [← g.probe_of_mem_observations ho, ← g'.probe_of_mem_observations ho']
  exact (Prod.mk.inj heq).1.symm

/-- What stands in the values of a text is visible. -/
theorem Spells.isBlank_value {text : String} (h : Spells text gs) (hg : g ∈ gs)
    {e : String × String} (he : e ∈ g.entries) : ∀ c ∈ e.2.toList, isBlank c = false := by
  intro c hc
  refine h.visible c (List.mem_flatMap.2 ⟨g, hg, ?_⟩)
  simp [Group.text_eq, mem_entriesText he hc]

/-- What an answered group of a text observes may stand in it, and is not silence. -/
theorem Spells.legal_of_mem_observations {text : String} (h : Spells text gs) (hg : g ∈ gs)
    {values : TestMap String} (hvalues : g.response = .answered values) {o : Observation}
    (ho : o ∈ g.observations) :
    ¬ o.isSilence ∧ g.probe.accepts o.test ∧
      ∀ c ∈ o.value.toList, isBlank c = false ∧ c ≠ '(' ∧ c ≠ ')' ∧ c ≠ '%' := by
  obtain ⟨hkept, -⟩ := Group.response_eq_answered_iff.1 hvalues
  rw [Group.observations, if_neg hkept] at ho
  obtain ⟨e, he, rfl⟩ := List.mem_map.1 ho
  have hsilence := (h.wellFormed g hg).not_isSilence hkept he
  have hentry := mem_of_mem_lastOfEach he
  have hadmits := (h.wellFormed g hg).admits e hentry
  refine ⟨hsilence, hadmits.known.resolve_right ?_, fun c hc => ?_⟩
  · rintro rfl
    exact hsilence (Observation.isSilence_silence g.probe)
  · exact ⟨h.isBlank_value hg hentry c hc, hadmits.value c hc⟩

/-- The groups of a text make a query whose views agree. -/
theorem Spells.coherent {text : String} (h : Spells text gs) : (ofGroups gs).Coherent where
  distinct := nodup_tests_ofGroups h.nodup
  together p := by
    by_cases hp : p ∈ gs.map (·.probe)
    · obtain ⟨g, hg, rfl⟩ := List.mem_map.1 hp
      obtain ⟨heq, hinfix⟩ := observationsOf_ofGroups h.nodup hg
      rwa [heq]
    · rw [observationsOf_ofGroups_eq_nil hp]
      exact List.nil_infix
  mentioned p := by
    rw [(perm_probes_ofGroups h.nodup).mem_iff]
    refine ⟨fun hp => ?_, fun hne => ?_⟩
    · obtain ⟨g, hg, rfl⟩ := List.mem_map.1 hp
      rw [(observationsOf_ofGroups h.nodup hg).1]
      exact g.observations_ne_nil
    · by_contra hp
      exact hne (observationsOf_ofGroups_eq_nil hp)
  silent p := by
    by_cases hp : p ∈ gs.map (·.probe)
    · obtain ⟨g, hg, rfl⟩ := List.mem_map.1 hp
      rw [response?_ofGroups h.nodup hg, (observationsOf_ofGroups h.nodup hg).1, Option.some.injEq]
      exact Group.response_eq_silent_iff
    · rw [response?_ofGroups_eq_none_iff.2 hp, observationsOf_ofGroups_eq_nil hp]
      simp
  answered p values hvalues := by
    obtain ⟨g, hg, rfl, hr⟩ := exists_mem_of_response? h.nodup hvalues
    obtain ⟨hkept, rfl⟩ := Group.response_eq_answered_iff.1 hr
    have hperm := perm_toList_ofList g.nodup_kept
    rw [(observationsOf_ofGroups h.nodup hg).1, Group.observations, if_neg hkept, List.map_map]
    refine ⟨fun hempty => hkept (.inl ?_), ?_⟩
    · rw [hempty] at hperm
      exact hperm.nil_eq.symm
    · simpa [Function.comp_def] using hperm.symm
  legal p values hvalues o ho := by
    obtain ⟨g, hg, rfl, hr⟩ := exists_mem_of_response? h.nodup hvalues
    rw [(observationsOf_ofGroups h.nodup hg).1] at ho
    exact h.legal_of_mem_observations hg hr ho

end

/-- **The views agree.** In a query that is read, no test of a probe is observed twice, and the
observations of a probe come one right after the other. They are silence, or the values of the
response, and there are some exactly if there is a response. -/
theorem ofText_coherent {text : String} {q : Query} (h : (ofText text).outcome = .ok q) :
    q.Coherent := by
  obtain ⟨gs, hgs, rfl⟩ := outcome_ofText_eq_ok_iff.1 h
  exact hgs.coherent

/-- A test that is given twice is observed once, where it was given last, and silence of a probe
without the test `R` is observed as its value. -/
theorem ofText_coherent_repeated_test :
    ∃ q, (ofText "T1(DF=N%R=Y%DF=Y)\nOPS(R = N)").outcome = .ok q ∧ q.Coherent ∧
      q.observationsOf .t1 = [⟨.t1, "R", "Y"⟩, ⟨.t1, "DF", "Y"⟩] ∧
      q.observationsOf .ops = [.silence .ops] ∧ q.observationsOf .t2 = [] := by
  have h : ((ofText "T1(DF=N%R=Y%DF=Y)\nOPS(R = N)").outcome.map fun q =>
      (q.observationsOf .t1, q.observationsOf .ops, q.observationsOf .t2)) =
        .ok ([⟨.t1, "R", "Y"⟩, ⟨.t1, "DF", "Y"⟩], [.silence .ops], []) := by
    decide +kernel
  obtain ⟨q, hq, hobservations⟩ := map_eq_ok_iff.1 h
  rw [Prod.mk.injEq, Prod.mk.injEq] at hobservations
  exact ⟨q, hq, ofText_coherent hq, hobservations⟩

end Query

end OsDetection
