import Mathlib.Data.List.InsertIdx
import OsDetection.Proofs.Ranking
import OsDetection.Proofs.Scores

/-!
# Fingerprints do not matter to each other

A fingerprint is scored by itself, so that a database without it has the same scores for the others
(`Database.outcome_scores_without`), and the same fault if an observation has no points. The places
behind it move up by one (`around`), which keeps their ranks (`IsRanking.map_around_eq_erase`); the
ranking of the others is therefore that of all, with one entry taken out
(`Database.bestMatches_without`).
-/

namespace OsDetection

/-! ## A list without one of its places -/

/-- The place in a list of what stands at a place once the list has lost another. -/
def around (lost place : Nat) : Nat :=
  if place < lost then place else place + 1

section
variable {lost i j : Nat}

theorem getElem?_eraseIdx_around {α : Type} (as : List α) (lost place : Nat) :
    (as.eraseIdx lost)[place]? = as[around lost place]? := by
  rw [List.getElem?_eraseIdx, around]
  split <;> rfl

/-- The order of the places stays as it is. -/
theorem around_lt_around (h : i < j) : around lost i < around lost j := by
  unfold around
  split <;> split <;> omega

/-- All places but the lost one are left. -/
theorem exists_around_eq_iff {n : Nat} (h : lost < n) :
    (∃ j < n - 1, around lost j = i) ↔ i < n ∧ i ≠ lost := by
  unfold around
  constructor
  · rintro ⟨j, hj, rfl⟩
    split <;> omega
  · intro hi
    by_cases hlt : i < lost
    · exact ⟨i, by omega, if_pos hlt⟩
    · exact ⟨i - 1, by omega, by rw [if_neg (by omega)]; omega⟩

end

/-- Related lists stay related if each loses the same place. -/
theorem forall₂_eraseIdx {α β : Type} {R : α → β → Prop} {as : List α} {bs : List β}
    (h : List.Forall₂ R as bs) (k : Nat) : List.Forall₂ R (as.eraseIdx k) (bs.eraseIdx k) := by
  induction h generalizing k with
  | nil => exact .nil
  | cons hab hrest ih =>
    cases k with
    | zero => exact hrest
    | succ k => exact .cons hab (ih k)

/-! ## Ranking without one of the fingerprints -/

section
variable {scores places places' : List Nat} {lost : Nat}

/-- Of two places left the same one outranks the other as before. -/
theorem Outranks.of_eraseIdx {i j : Nat} (h : Outranks (scores.eraseIdx lost) i j) :
    Outranks scores (around lost i) (around lost j) := by
  obtain ⟨s, t, hs, ht, hst⟩ := h
  rw [getElem?_eraseIdx_around] at hs ht
  exact ⟨s, t, hs, ht, hst.imp_right fun ⟨heq, hlt⟩ => ⟨heq, around_lt_around hlt⟩⟩

/-- The places left are ranked as before. -/
theorem IsRanking.map_around_eq_erase (h : IsRanking scores places)
    (h' : IsRanking (scores.eraseIdx lost) places') (hlost : lost < scores.length) :
    places'.map (around lost) = places.erase lost := by
  rw [h.nodup.erase_eq_filter]
  -- Both are sorted by the same order, so that it is enough that they have the same places.
  refine List.Pairwise.eq_of_mem_iff (r := Outranks scores) ?_ (h.sorted.filter _) fun i => ?_
  · exact List.pairwise_map.2 (h'.sorted.imp fun hij => hij.of_eraseIdx)
  · have hmem : i ∈ places'.map (around lost) ↔
        ∃ j < scores.length - 1, around lost j = i := by
      simp only [List.mem_map, h'.mem_iff, List.length_eraseIdx_of_lt hlost]
    rw [hmem, exists_around_eq_iff hlost, List.mem_filter, h.mem_iff]
    simp

/-- What stands in the ranking for a place that is left is what stood there before. -/
theorem placed_eraseIdx_iff {fingerprints : List Fingerprint} {most place : Nat} {m : Ranked} :
    Placed (fingerprints.eraseIdx lost) (scores.eraseIdx lost) most place m ↔
      Placed fingerprints scores most (around lost place) m := by
  simp only [Placed, getElem?_eraseIdx_around]

/-- Ranking all fingerprints but one is ranking all of them and leaving out the entry of the
one. -/
theorem rank_eraseIdx {fingerprints : List Fingerprint} (most : Nat) {limit limit' : Nat}
    (hscores : fingerprints.length = scores.length) (hlost : lost < fingerprints.length)
    (hlimit : fingerprints.length ≤ limit) (hlimit' : fingerprints.length - 1 ≤ limit') :
    ∃ places, IsRanking scores places ∧
      List.Forall₂ (Placed fingerprints scores most) places (rank fingerprints scores most limit) ∧
      rank (fingerprints.eraseIdx lost) (scores.eraseIdx lost) most limit' =
        (rank fingerprints scores most limit).eraseIdx (places.idxOf lost) := by
  obtain ⟨places, hplaces, hall⟩ := exists_isRanking_rank fingerprints scores most limit
  obtain ⟨places', hplaces', hrest⟩ := exists_isRanking_rank (fingerprints.eraseIdx lost)
    (scores.eraseIdx lost) most limit'
  have hlength : (fingerprints.eraseIdx lost).length = (scores.eraseIdx lost).length := by
    simp only [List.length_eraseIdx, hscores]
  rw [List.map_snd_zip hscores.ge] at hplaces
  rw [List.map_snd_zip hlength.ge] at hplaces'
  have hshort : places.length ≤ limit := by
    rw [hplaces.perm.length_eq, List.length_range]
    omega
  have hshort' : places'.length ≤ limit' := by
    rw [hplaces'.perm.length_eq, List.length_range, List.length_eraseIdx_of_lt (by omega)]
    omega
  rw [List.take_of_length_le hshort] at hall
  rw [List.take_of_length_le hshort'] at hrest
  refine ⟨places, hplaces, hall, ?_⟩
  -- Both sides list what stands for the places that are left.
  have hleft : List.Forall₂ (Placed fingerprints scores most) (places.erase lost)
      (rank (fingerprints.eraseIdx lost) (scores.eraseIdx lost) most limit') := by
    rw [← hplaces.map_around_eq_erase hplaces' (by omega), List.forall₂_map_left_iff]
    exact hrest.imp fun _ _ => placed_eraseIdx_iff.1
  have herased := forall₂_eraseIdx hall (places.idxOf lost)
  rw [List.eraseIdx_idxOf_eq_erase] at herased
  exact List.right_unique_forall₂' (rightUnique_placed fingerprints scores most) hleft herased

end

/-! ## Databases -/

namespace Database

/-- A database without the fingerprint at a place. -/
def without (d : Database) (i : Nat) : Database :=
  { d with fingerprints := d.fingerprints.eraseIdx i }

variable (d : Database) (os : List Observation)

/-- The scores of the other fingerprints stay, and so does a fault. -/
theorem outcome_scores_without (i : Nat) :
    ((d.without i).scores os).outcome = (d.scores os).outcome.map (·.eraseIdx i) := by
  have hcovers : (d.without i).covers = d.covers := rfl
  have hcontributions : (d.without i).contributions = d.contributions := rfl
  rw [outcome_scores, outcome_scores, hcovers, hcontributions]
  cases os.find? (!d.covers ·) with
  | some o => rfl
  | none =>
    rw [without, ← List.eraseIdx_map]
    rfl

/-- **Fingerprints are ranked independently.** Without one of its fingerprints a database has the
same fault for a sequence of observations, or else the same complete ranking, except that the entry
of that fingerprint is left out. -/
theorem bestMatches_without {i : Nat} (hi : i < d.fingerprints.length) :
    (∀ limit limit' fault, ((d.without i).bestMatches os limit').outcome = .error fault ↔
      (d.bestMatches os limit).outcome = .error fault) ∧
    ∀ limit limit' ranked, d.fingerprints.length ≤ limit →
      (d.without i).fingerprints.length ≤ limit' →
      (d.bestMatches os limit).outcome = .ok ranked →
      ∃ ss places k, (d.scores os).outcome = .ok ss ∧ IsRanking ss places ∧
        List.Forall₂ (Placed d.fingerprints ss d.points.most) places ranked ∧
        places[k]? = some i ∧
        ((d.without i).bestMatches os limit').outcome = .ok (ranked.eraseIdx k) := by
  simp only [outcome_bestMatches, outcome_scores_without]
  cases hss : (d.scores os).outcome with
  | error fault =>
    constructor
    · intro limit limit' fault'
      exact Iff.rfl
    · intro limit limit' ranked hlimit hlimit' hranked
      cases hranked
  | ok ss =>
    constructor
    · intro limit limit' fault
      exact ⟨nofun, nofun⟩
    · intro limit limit' ranked hlimit hlimit' hranked
      obtain rfl := Except.ok.inj hranked
      have hscores : d.fingerprints.length = ss.length := by
        simp [(outcome_scores_eq_ok_iff.1 hss).2]
      have hlength : (d.without i).fingerprints.length = d.fingerprints.length - 1 :=
        List.length_eraseIdx_of_lt hi
      obtain ⟨places, hplaces, hall, hrest⟩ :=
        rank_eraseIdx d.points.most hscores hi hlimit (hlength ▸ hlimit')
      have hplace : places[places.idxOf i]? = some i :=
        List.getElem?_idxOf (hplaces.mem_iff.2 (hscores ▸ hi))
      exact ⟨ss, places, places.idxOf i, rfl, hplaces, hall, hplace, congrArg Except.ok hrest⟩

/-- Two fingerprints have the same score. Leaving the later one out takes the second entry of the
ranking away and no other. -/
theorem bestMatches_without_tied :
    let d : Database := ⟨[⟨"a", "", "", 1, (∅ : ProbeMap _).insert .t1 .silent⟩,
      ⟨"b", "", "", 2, ∅⟩, ⟨"c", "", "", 3, (∅ : ProbeMap _).insert .t1 .silent⟩],
      PointTable.empty.insert .t1 (.ofList [("R", (30 : UInt32))])⟩
    ∃ ranked, (d.bestMatches [.silence .t1] 3).outcome = .ok ranked ∧
      ((d.without 2).bestMatches [.silence .t1] 2).outcome = .ok (ranked.eraseIdx 1) := by
  intro d
  have hscores : (d.scores [.silence .t1]).outcome = .ok [30, 0, 30] := by decide +kernel
  have hranking : IsRanking [30, 0, 30] [0, 2, 1] := ⟨by decide, by simp [Outranks]⟩
  have hranked := d.outcome_bestMatches [.silence .t1] 3
  rw [hscores] at hranked
  obtain ⟨ss, places, k, hss, hplaces, -, hplace, hwithout⟩ :=
    (d.bestMatches_without [.silence .t1] (i := 2) (by decide)).2 3 2 _ (by decide) (by decide)
      hranked
  obtain rfl := Except.ok.inj (hscores.symm.trans hss)
  obtain rfl := hranking.unique hplaces
  obtain rfl : 1 = k := (List.getElem?_inj (by decide) hranking.nodup).1 hplace.symm
  exact ⟨_, hranked, hwithout⟩

end Database

end OsDetection
