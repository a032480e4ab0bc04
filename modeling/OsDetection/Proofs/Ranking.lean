import Mathlib.Data.List.Forall2
import Mathlib.Data.List.Nodup
import Mathlib.Data.List.Sort
import OsDetection.Proofs.Folds
import OsDetection.Ranking

/-!
# The order of a ranking

A ranking lists the places of a list of scores, each once, so that no place comes before one that
outranks it (`IsRanking`). Of two places the one with the higher score outranks the other, and of
two with equal scores the earlier one, so that there is no more than one ranking
(`IsRanking.unique`). Ranked fingerprints stand in that order, each with its own score
(`exists_isRanking_rank`), and a limit leaves out the last of them (`rank_lists_the_best`). What is
ranked depends on the scores only through their outcome (`Database.outcome_bestMatches`).
-/

namespace OsDetection

/-- One place of a list of scores has the higher score than another, or the same and is before
it. -/
def Outranks (scores : List Nat) (i j : Nat) : Prop :=
  ∃ s t, scores[i]? = some s ∧ scores[j]? = some t ∧ (t < s ∨ t = s ∧ i < j)

instance (scores : List Nat) : Std.Asymm (Outranks scores) where
  asymm i j := by
    rintro ⟨s, t, hs, ht, hst⟩ ⟨t', s', ht', hs', hts⟩
    obtain rfl := Option.some.inj (hs.symm.trans hs')
    obtain rfl := Option.some.inj (ht.symm.trans ht')
    omega

/-- The places of a list of scores in the order of their ranks. -/
structure IsRanking (scores places : List Nat) : Prop where
  perm : places.Perm (List.range scores.length)
  sorted : places.Pairwise (Outranks scores)

namespace IsRanking

variable {scores places places' : List Nat}

theorem mem_iff (h : IsRanking scores places) {i : Nat} : i ∈ places ↔ i < scores.length := by
  rw [h.perm.mem_iff, List.mem_range]

theorem nodup (h : IsRanking scores places) : places.Nodup :=
  h.perm.nodup_iff.2 List.nodup_range

/-- Scores are ranked in one way only. -/
theorem unique (h : IsRanking scores places) (h' : IsRanking scores places') : places = places' :=
  h.sorted.eq_of_mem_iff h'.sorted fun i => by rw [h.mem_iff, h'.mem_iff]

end IsRanking

/-- What stands in a ranking for a place: name, classes, identifier and line of the fingerprint
there, and the score there, also as a share of the most that can be earned. -/
def Placed (fingerprints : List Fingerprint) (scores : List Nat) (most place : Nat)
    (m : Ranked) : Prop :=
  ∃ f s, fingerprints[place]? = some f ∧ scores[place]? = some s ∧
    m.name = f.name ∧ m.classes = f.classes ∧ m.cpe = f.cpe ∧ m.line = f.line ∧
    m.score = s ∧ m.percent = percentage s most

/-- A ranked fingerprint is known by its fields. -/
theorem Ranked.eq_ofScore_iff {m : Ranked} {f : Fingerprint} {s most : Nat} :
    m = .ofScore most f s ↔
      m.name = f.name ∧ m.classes = f.classes ∧ m.cpe = f.cpe ∧ m.line = f.line ∧
        m.score = s ∧ m.percent = percentage s most := by
  cases m
  simp [ofScore]

/-- A place has one entry at most. -/
theorem rightUnique_placed (fingerprints : List Fingerprint) (scores : List Nat) (most : Nat) :
    Relator.RightUnique (Placed fingerprints scores most) := by
  rintro i m m' ⟨f, s, hf, hs, hm⟩ ⟨f', s', hf', hs', hm'⟩
  obtain rfl := Option.some.inj (hf.symm.trans hf')
  obtain rfl := Option.some.inj (hs.symm.trans hs')
  exact (Ranked.eq_ofScore_iff.2 hm).trans (Ranked.eq_ofScore_iff.2 hm').symm

/-! ## Sorting with the places -/

/-- Entries of a fingerprint and its score by their ranks, each with its place in the list. -/
def numberedByRank (entries : List (Fingerprint × Nat)) : List ((Fingerprint × Nat) × Nat) :=
  entries.zipIdx.mergeSort (List.zipIdxLE fun a b => decide (b.2 ≤ a.2))

section
variable (entries : List (Fingerprint × Nat))

theorem perm_numberedByRank : (numberedByRank entries).Perm entries.zipIdx :=
  List.mergeSort_perm _ _

/-- An entry stands at the place that it is numbered with. -/
theorem getElem?_of_mem_numberedByRank {e : (Fingerprint × Nat) × Nat}
    (h : e ∈ numberedByRank entries) : entries[e.2]? = some e.1 :=
  List.mem_zipIdx_iff_getElem?.1 ((perm_numberedByRank entries).mem_iff.1 h)

/-- Entries come in the order of their scores, and those with equal scores in that of their
places. -/
theorem pairwise_numberedByRank :
    (numberedByRank entries).Pairwise fun a b =>
      b.1.2 < a.1.2 ∨ b.1.2 = a.1.2 ∧ a.2 ≤ b.2 := by
  have hle : (numberedByRank entries).Pairwise fun a b =>
      List.zipIdxLE (fun a b => decide (b.2 ≤ a.2)) a b = true := by
    refine List.pairwise_mergeSort (List.zipIdxLE_trans ?_) (List.zipIdxLE_total ?_) _
    · intro a b c hab hbc
      simp only [decide_eq_true_eq] at *
      omega
    · intro a b
      simp only [Bool.or_eq_true, decide_eq_true_eq]
      omega
  refine hle.imp fun {a b} hab => ?_
  simp only [List.zipIdxLE, decide_eq_true_eq] at hab
  split at hab
  · split at hab
    · simp only [decide_eq_true_eq] at hab
      omega
    · omega
  · exact absurd hab (by simp)

/-- The numbers are a ranking of the scores. -/
theorem isRanking_numberedByRank :
    IsRanking (entries.map (·.2)) ((numberedByRank entries).map (·.2)) := by
  have hperm : ((numberedByRank entries).map (·.2)).Perm (List.range entries.length) := by
    rw [List.range_eq_range', ← List.zipIdx_map_snd]
    exact (perm_numberedByRank entries).map Prod.snd
  have hne : (numberedByRank entries).Pairwise fun a b => a.2 ≠ b.2 :=
    List.pairwise_map.1 (hperm.nodup_iff.2 List.nodup_range)
  refine ⟨by simpa using hperm, List.pairwise_map.2 ?_⟩
  refine ((pairwise_numberedByRank entries).and hne).imp_of_mem fun {a b} ha hb hab => ?_
  have hscore : (entries.map (·.2))[a.2]? = some a.1.2 := by
    rw [List.getElem?_map, getElem?_of_mem_numberedByRank entries ha, Option.map_some]
  have hscore' : (entries.map (·.2))[b.2]? = some b.1.2 := by
    rw [List.getElem?_map, getElem?_of_mem_numberedByRank entries hb, Option.map_some]
  obtain ⟨hlt | ⟨heq, hle⟩, hne⟩ := hab
  · exact ⟨_, _, hscore, hscore', .inl hlt⟩
  · exact ⟨_, _, hscore, hscore', .inr ⟨heq, Nat.lt_of_le_of_ne hle hne⟩⟩

end

/-- Sorting is stable: the places could be left out. -/
theorem rank_eq_map_numberedByRank (fingerprints : List Fingerprint) (scores : List Nat)
    (most limit : Nat) :
    rank fingerprints scores most limit =
      ((numberedByRank (fingerprints.zip scores)).take limit).map fun e =>
        .ofScore most e.1.1 e.1.2 := by
  rw [rank, ← List.mergeSort_zipIdx, ← List.map_take, List.map_map]
  rfl

/-- **Ranking by score.** The fingerprints that have a score are listed by the ranks of their
places, as far as the limit. -/
theorem exists_isRanking_rank (fingerprints : List Fingerprint) (scores : List Nat)
    (most limit : Nat) :
    ∃ places, IsRanking ((fingerprints.zip scores).map (·.2)) places ∧
      List.Forall₂ (Placed fingerprints scores most) (places.take limit)
        (rank fingerprints scores most limit) := by
  refine ⟨_, isRanking_numberedByRank (fingerprints.zip scores), ?_⟩
  rw [rank_eq_map_numberedByRank, ← List.map_take, List.forall₂_map_left_iff,
    List.forall₂_map_right_iff, List.forall₂_same]
  intro e he
  have hentry := getElem?_of_mem_numberedByRank _ (List.mem_of_mem_take he)
  obtain ⟨hf, hs⟩ := List.getElem?_zip_eq_some.1 hentry
  exact ⟨e.1.1, e.1.2, hf, hs, Ranked.eq_ofScore_iff.1 rfl⟩

/-! ## The first places -/

/-- The scores that belong to a fingerprint are the first ones. -/
theorem map_snd_zip_eq_take (fingerprints : List Fingerprint) (scores : List Nat) :
    (fingerprints.zip scores).map (·.2) = scores.take fingerprints.length := by
  induction fingerprints generalizing scores with
  | nil => simp
  | cons f fingerprints ih =>
    cases scores with
    | nil => rfl
    | cons s scores => simp [ih]

/-- Scores that follow change no comparison. -/
theorem Outranks.of_take {scores : List Nat} {n i j : Nat} (h : Outranks (scores.take n) i j) :
    Outranks scores i j := by
  obtain ⟨s, t, hs, ht, hst⟩ := h
  rw [List.getElem?_take, Option.ite_none_right_eq_some] at hs ht
  exact ⟨s, t, hs.2, ht.2, hst⟩

/-- Every place left out is outranked by all that are listed. -/
theorem IsRanking.outranks_of_mem_take {scores places : List Nat} (h : IsRanking scores places)
    {n i j : Nat} (hi : i ∈ places.take n) (hj : j < scores.length) (hout : j ∉ places.take n) :
    Outranks scores i j := by
  have hsorted := h.sorted
  have hmem := h.mem_iff.2 hj
  rw [← List.take_append_drop n places] at hsorted hmem
  have hdrop : j ∈ places.drop n := (List.mem_append.1 hmem).resolve_left hout
  exact (List.pairwise_append.1 hsorted).2.2 i hi j hdrop

/-- As many fingerprints are ranked as there are with a score, up to the limit. -/
theorem length_rank (fingerprints : List Fingerprint) (scores : List Nat) (most limit : Nat) :
    (rank fingerprints scores most limit).length =
      min limit (min fingerprints.length scores.length) := by
  rw [rank, List.length_map, List.length_take, List.length_mergeSort, List.length_zip]

/-- A lower limit leaves out the last entries. -/
theorem rank_prefix_rank (fingerprints : List Fingerprint) (scores : List Nat) (most : Nat)
    {limit limit' : Nat} (h : limit ≤ limit') :
    rank fingerprints scores most limit <+: rank fingerprints scores most limit' :=
  (List.take_prefix_take_left h).map _

/-- **A ranking lists the best.** The places of the scores that belong to a fingerprint have one
ranking, whatever the limit. Its first places are listed, each with the fields of the fingerprint
and the score there. None is listed twice, and those left out are outranked by all that are
listed. -/
theorem rank_lists_the_best (fingerprints : List Fingerprint) (scores : List Nat) (most : Nat) :
    ∃ places,
      (∀ places', IsRanking (scores.take fingerprints.length) places' ↔ places' = places) ∧
      (∀ limit, List.Forall₂ (Placed fingerprints scores most) (places.take limit)
        (rank fingerprints scores most limit)) ∧
      (∀ limit, (rank fingerprints scores most limit).length =
        min limit (min fingerprints.length scores.length)) ∧
      (∀ limit limit', limit ≤ limit' →
        rank fingerprints scores most limit <+: rank fingerprints scores most limit') ∧
      places.Nodup ∧
      ∀ limit, ∀ i ∈ places.take limit, ∀ j < min fingerprints.length scores.length,
        j ∉ places.take limit → Outranks scores i j := by
  obtain ⟨places, hplaces, -⟩ := exists_isRanking_rank fingerprints scores most 0
  rw [map_snd_zip_eq_take] at hplaces
  refine ⟨places, fun places' => ⟨fun h => h.unique hplaces, fun h => h ▸ hplaces⟩, ?_,
    length_rank fingerprints scores most, fun _ _ => rank_prefix_rank fingerprints scores most,
    hplaces.nodup, ?_⟩
  · intro limit
    obtain ⟨places', hplaces', hlisted⟩ := exists_isRanking_rank fingerprints scores most limit
    rw [map_snd_zip_eq_take] at hplaces'
    rwa [hplaces'.unique hplaces] at hlisted
  · intro limit i hi j hj hout
    rw [← List.length_take] at hj
    exact (hplaces.outranks_of_mem_take hi hj hout).of_take

/-- One score is left over and two are tied. Of the three places with a fingerprint the second comes
first, and of the tied ones the earlier is listed. -/
theorem rank_lists_the_best_tied :
    let a : Fingerprint := ⟨"a", "printer", "cpe:/h:a", 1, ∅⟩
    let b : Fingerprint := ⟨"b", "router", "cpe:/h:b", 20, ∅⟩
    let c : Fingerprint := ⟨"c", "switch", "cpe:/h:c", 300, ∅⟩
    rank [a, b, c] [5, 9, 5, 7] 10 2 =
        [⟨"b", "router", "cpe:/h:b", 20, 9, .ofNat 90⟩,
          ⟨"a", "printer", "cpe:/h:a", 1, 5, .ofNat 50⟩] ∧
      rank [a, b, c] [5, 9, 5, 7] 10 2 <+: rank [a, b, c] [5, 9, 5, 7] 10 3 := by
  intro a b c
  have hranking : IsRanking [5, 9, 5] [1, 0, 2] := ⟨by decide, by simp [Outranks]⟩
  obtain ⟨places, hunique, hlisted, -, hprefix, -⟩ :=
    rank_lists_the_best [a, b, c] [5, 9, 5, 7] 10
  obtain rfl := (hunique _).1 hranking
  have hninety : Numeral.Binary64.ofNat 90 = percentage 9 10 := by decide +kernel
  have hfifty : Numeral.Binary64.ofNat 50 = percentage 5 10 := by decide +kernel
  have hfirst : Placed [a, b, c] [5, 9, 5, 7] 10 1
      ⟨"b", "router", "cpe:/h:b", 20, 9, .ofNat 90⟩ :=
    ⟨b, 9, rfl, rfl, rfl, rfl, rfl, rfl, rfl, hninety⟩
  have hsecond : Placed [a, b, c] [5, 9, 5, 7] 10 0
      ⟨"a", "printer", "cpe:/h:a", 1, 5, .ofNat 50⟩ :=
    ⟨a, 5, rfl, rfl, rfl, rfl, rfl, rfl, rfl, hfifty⟩
  exact ⟨List.right_unique_forall₂' (rightUnique_placed _ _ _) (hlisted 2)
    (.cons hfirst (.cons hsecond .nil)), hprefix 2 3 (by decide)⟩

namespace Database

/-- The best matches are ranked by the scores. -/
theorem outcome_bestMatches (d : Database) (os : List Observation) (limit : Nat) :
    (d.bestMatches os limit).outcome =
      (d.scores os).outcome.map fun ss => rank d.fingerprints ss d.points.most limit := by
  rw [bestMatches, Logged.outcome_bind]
  cases (d.scores os).outcome <;> rfl

/-- The matches of a text that is a query are those of its observations. -/
theorem outcome_matchQuery (d : Database) {text : String} {q : Query}
    (hq : (Query.ofText text).outcome = .ok q) (limit : Nat) :
    (d.matchQuery text limit).outcome = (d.bestMatches q.observations limit).outcome := by
  rw [matchQuery, Logged.outcome_bind, hq, ok_bind]

end Database

end OsDetection
