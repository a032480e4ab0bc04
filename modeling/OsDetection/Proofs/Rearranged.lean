import OsDetection.Proofs.Ranking
import OsDetection.Proofs.Resemblance

/-!
# The order of a report

Observations are scored in any order: what they contribute is a sum, and whether all of them have
points does not depend on their order, though the first without points does
(`Database.agree_scores`). A query that gives no test of a group twice may be written with its
groups in another order, and the entries of each group as well (`Query.Rearranged`). This is a query
with the same responses and its observations in another order (`Query.Rearranged.spells`,
`Query.Rearranged.responses_ofGroups`, `Query.Rearranged.perm_observations`), and therefore has the
same matches (`Database.matchQuery_rearranged`).
-/

namespace OsDetection

/-! ## Outcomes -/

/-- Two computations have the same result, or both miss the points of a test, which may be different
ones. -/
inductive Fault.Agree {α : Type} : Except Fault α → Except Fault α → Prop
  | ok (a : α) : Agree (.ok a) (.ok a)
  | noPoints (p p' : Probe) (test test' : String) :
    Agree (.error (.noPoints p test)) (.error (.noPoints p' test'))

/-- What comes out of agreeing computations agrees. -/
theorem Fault.Agree.map {α β : Type} {x y : Except Fault α} (h : Agree x y) (f : α → β) :
    Agree (x.map f) (y.map f) := by
  cases h with
  | ok a => exact .ok (f a)
  | noPoints p p' test test' => exact .noPoints p p' test test'

namespace Database

variable (d : Database) {os os' : List Observation}

/-- Contributions are added up in any order. -/
theorem contributions_eq_of_perm (f : Fingerprint) (h : os.Perm os') :
    d.contributions f os = d.contributions f os' :=
  (h.map _).sum_eq

/-- Observations in another order have the same scores, if they all have points. -/
theorem agree_scores (h : os.Perm os') :
    Fault.Agree (d.scores os).outcome (d.scores os').outcome := by
  have hnone : os.find? (!d.covers ·) = none ↔ os'.find? (!d.covers ·) = none := by
    simp only [List.find?_eq_none, h.mem_iff]
  simp only [outcome_scores, d.contributions_eq_of_perm _ h]
  cases hfind : os.find? (!d.covers ·) with
  | none =>
    rw [hnone.1 hfind]
    exact .ok _
  | some o =>
    cases hfind' : os'.find? (!d.covers ·) with
    | none =>
      rw [hnone.2 hfind'] at hfind
      cases hfind
    | some o' => exact .noPoints o.probe o'.probe o.test o'.test

/-- And the same best matches. -/
theorem agree_bestMatches (h : os.Perm os') (limit : Nat) :
    Fault.Agree (d.bestMatches os limit).outcome (d.bestMatches os' limit).outcome := by
  rw [outcome_bestMatches, outcome_bestMatches]
  exact (d.agree_scores h).map _

end Database

/-! ## Groups with their entries in another order -/

namespace Query

/-- A group has the entries of another in some order. -/
structure Group.Reorders (g g' : Group) : Prop where
  probe : g.probe = g'.probe
  entries : g.entries.Perm g'.entries

namespace Group.Reorders

variable {g g' : Group} (h : g.Reorders g') (hnames : (g.entries.map (·.1)).Nodup)
include h hnames

theorem perm_kept : g.kept.Perm g'.kept := by
  have hnames' : (g'.entries.map (·.1)).Nodup := (h.entries.map _).nodup_iff.1 hnames
  rw [kept, kept, lastOfEach_eq_self hnames, lastOfEach_eq_self hnames']
  exact h.entries

theorem kept_eq_nil_iff : g.kept = [] ↔ g'.kept = [] := by
  rw [← List.perm_nil, ← List.perm_nil, (h.perm_kept hnames).congr_left]

theorem kept_eq_singleton_iff {e : String × String} : g.kept = [e] ↔ g'.kept = [e] := by
  rw [← List.perm_singleton, ← List.perm_singleton, (h.perm_kept hnames).congr_left]

theorem wellFormed (hg : g.WellFormed) : g'.WellFormed := by
  refine ⟨fun e he => ?_, ?_⟩
  · rw [← h.probe]
    exact hg.admits e (h.entries.mem_iff.2 he)
  · rw [← (h.perm_kept hnames).mem_iff, ← h.kept_eq_singleton_iff hnames]
    exact hg.silence

theorem response_eq : g.response = g'.response := by
  simp only [response, ← h.kept_eq_nil_iff hnames, ← h.kept_eq_singleton_iff hnames]
  rw [ofList_eq_of_perm g.nodup_kept (h.perm_kept hnames)]

theorem perm_observations : g.observations.Perm g'.observations := by
  simp only [observations, ← h.kept_eq_nil_iff hnames, ← h.kept_eq_singleton_iff hnames, ← h.probe]
  split
  · exact .refl _
  · exact (h.perm_kept hnames).map _

end Group.Reorders

/-! ## Queries with their groups in another order -/

/-- Groups are those of another list in some order, each with its entries in some order. -/
def Rearranged (gs gs' : List Group) : Prop :=
  ∃ hs, gs.Perm hs ∧ List.Forall₂ Group.Reorders hs gs'

namespace Rearranged

variable {gs gs' : List Group} (h : Rearranged gs gs')
include h

theorem exists_reorders {g' : Group} (hg' : g' ∈ gs') : ∃ g ∈ gs, g.Reorders g' := by
  obtain ⟨hs, hperm, hall⟩ := h
  obtain ⟨g, hg, hreorders⟩ := exists_mem_of_forall₂ hall hg'
  exact ⟨g, hperm.mem_iff.2 hg, hreorders⟩

theorem perm_probes : (gs.map (·.probe)).Perm (gs'.map (·.probe)) := by
  obtain ⟨hs, hperm, hall⟩ := h
  have hprobes : hs.map (·.probe) = gs'.map (·.probe) := by
    rw [← List.forall₂_eq_eq_eq, List.forall₂_map_left_iff, List.forall₂_map_right_iff]
    exact hall.imp fun _ _ hreorders => hreorders.probe
  exact hprobes ▸ hperm.map _

variable (hnames : ∀ g ∈ gs, (g.entries.map (·.1)).Nodup)
include hnames

/-- Groups that may be written may be written in another order. -/
theorem spells {text text' : String} (hgs : Spells text gs)
    (htext' : Text.dropBlanks text'.toList = gs'.flatMap (·.text)) : Spells text' gs' := by
  refine ⟨htext', fun g' hg' => ?_, h.perm_probes.nodup_iff.1 hgs.nodup⟩
  obtain ⟨g, hg, hreorders⟩ := h.exists_reorders hg'
  exact hreorders.wellFormed (hnames g hg) (hgs.wellFormed g hg)

/-- The responses are the same. -/
theorem responses_ofGroups (hprobes : (gs.map (·.probe)).Nodup) :
    (ofGroups gs').responses = (ofGroups gs).responses := by
  refine Std.ExtTreeMap.ext_getElem? fun p => ?_
  show (ofGroups gs').response? p = (ofGroups gs).response? p
  by_cases hp : p ∈ gs'.map (·.probe)
  · obtain ⟨g', hg', rfl⟩ := List.mem_map.1 hp
    obtain ⟨g, hg, hreorders⟩ := h.exists_reorders hg'
    rw [response?_ofGroups (h.perm_probes.nodup_iff.1 hprobes) hg', ← hreorders.probe,
      response?_ofGroups hprobes hg, hreorders.response_eq (hnames g hg)]
  · rw [response?_ofGroups_eq_none_iff.2 hp,
      response?_ofGroups_eq_none_iff.2 (mt h.perm_probes.mem_iff.1 hp)]

/-- The observations are the same, in another order. -/
theorem perm_observations :
    (ofGroups gs).observations.Perm (ofGroups gs').observations := by
  rw [observations_ofGroups, observations_ofGroups]
  obtain ⟨hs, hperm, hall⟩ := h
  have hnames' : ∀ g ∈ hs, (g.entries.map (·.1)).Nodup := by
    intro g hg
    exact hnames g (hperm.mem_iff.2 hg)
  -- The groups first, and then the entries of one group after the other.
  refine (hperm.flatMap_right _).trans ?_
  clear hperm
  induction hall with
  | nil => exact .refl _
  | @cons g g' hs gs' hreorders _ ih =>
    rw [List.forall_mem_cons] at hnames'
    exact (hreorders.perm_observations hnames'.1).append (ih hnames'.2)

end Rearranged

end Query

namespace Database

/-- **The order of a report does not matter.** A text that is made of the groups of a query in
another order, and of their entries in another order, is a query as well, unless a test was given
twice. It has the same responses and the same matches, or the points of some test are missing in
both cases. Observations in another order, repeated or not, have the same scores or miss points in
both cases. -/
theorem matchQuery_rearranged (d : Database) :
    (∀ text q, (Query.ofText text).outcome = .ok q →
      (∃ gs, Query.Spells text gs) ∧
      ∀ gs, Query.Spells text gs → (∀ g ∈ gs, (g.entries.map (·.1)).Nodup) →
        ∀ text' gs', Query.Rearranged gs gs' →
          Text.dropBlanks text'.toList = gs'.flatMap (·.text) →
          ∃ q', (Query.ofText text').outcome = .ok q' ∧ q'.responses = q.responses ∧
            ∀ limit, Fault.Agree (d.matchQuery text limit).outcome
              (d.matchQuery text' limit).outcome) ∧
    ∀ os os', os.Perm os' → Fault.Agree (d.scores os).outcome (d.scores os').outcome := by
  constructor
  · intro text q hq
    constructor
    · obtain ⟨gs, hgs, -⟩ := Query.outcome_ofText_eq_ok_iff.1 hq
      exact ⟨gs, hgs⟩
    · intro gs hgs hnames text' gs' hrearranged htext'
      have hq' := (hrearranged.spells hnames hgs htext').outcome_ofText
      obtain rfl := Except.ok.inj (hq.symm.trans hgs.outcome_ofText)
      refine ⟨_, hq', hrearranged.responses_ofGroups hnames hgs.nodup, fun limit => ?_⟩
      rw [d.outcome_matchQuery hq, d.outcome_matchQuery hq']
      exact d.agree_bestMatches (hrearranged.perm_observations hnames) limit
  · intro os os' h
    exact d.agree_scores h

/-- The other text has its groups and the entries of one of them the other way round. Of the
observations the first has no points in one order, and the last in the other. -/
theorem matchQuery_rearranged_two_groups :
    let d : Database := ⟨[⟨"box", "", "", 1, (∅ : ProbeMap _).insert .t1 .silent⟩],
      PointTable.empty.insert .t1 (.ofList [("R", (30 : UInt32)), ("DF", 20)])⟩
    (∃ q', (Query.ofText "T2()\nT1(DF=N % R=Y)").outcome = .ok q' ∧
      (q'.response? .t2).isSome ∧
      ∀ limit, Fault.Agree (d.matchQuery "T1(R=Y%DF=N)T2()" limit).outcome
        (d.matchQuery "T2()\nT1(DF=N % R=Y)" limit).outcome) ∧
    Fault.Agree (d.scores [.silence .t2, .silence .t1, .silence .t1]).outcome
      (d.scores [.silence .t1, .silence .t1, .silence .t2]).outcome := by
  intro d
  have hgs : Query.Spells "T1(R=Y%DF=N)T2()" [⟨.t1, [("R", "Y"), ("DF", "N")]⟩, ⟨.t2, []⟩] := by
    decide +kernel
  have hrearranged : Query.Rearranged [⟨.t1, [("R", "Y"), ("DF", "N")]⟩, ⟨.t2, []⟩]
      [⟨.t2, []⟩, ⟨.t1, [("DF", "N"), ("R", "Y")]⟩] :=
    ⟨[⟨.t2, []⟩, ⟨.t1, [("R", "Y"), ("DF", "N")]⟩], .swap ..,
      .cons ⟨rfl, .refl _⟩ (.cons ⟨rfl, .swap ..⟩ .nil)⟩
  obtain ⟨hqueries, hscores⟩ := d.matchQuery_rearranged
  obtain ⟨q', hq', hresponses, hmatches⟩ := (hqueries _ _ hgs.outcome_ofText).2 _ hgs (by decide)
    "T2()\nT1(DF=N % R=Y)" _ hrearranged (by decide +kernel)
  refine ⟨⟨q', hq', ?_, hmatches⟩, hscores _ _ (by decide)⟩
  rw [Query.response?, hresponses]
  decide +kernel

end Database

end OsDetection
