import OsDetection.Proofs.Database.Bodies
import OsDetection.Proofs.Patterns

/-!
# What an entry is, and what is wrong with a text that is none

The first equals sign of an entry divides the names of its tests from their pattern. Either part is
cut at the same separator, and read piece by piece: a text is an entry exactly if every piece is a
name or an alternative of its own, and then it is kept whole in what is read of it. Of a text that
is no entry the first fault from the left is told (`Entry.FirstFault`): what can be wrong with one
piece is `Entry.BadName` for a name and `Alternative.Faulty` for an alternative, and the pieces
before it are good. Both directions are in `Entry.ofText_lossless`.
-/

namespace OsDetection

open OsDetection.Text OsDetection.Numeral

/-! ## Alternatives -/

namespace Alternative

/-- Whether a text is taken for a range: it has a dash after its first character, which is no sign
of order. -/
structure TakenForRange (cs : List Char) : Prop where
  not_after : cs.head? ≠ some '>'
  not_before : cs.head? ≠ some '<'
  dash : '-' ∈ cs.tail

/-- What is wrong with a text that is no alternative. A range that has not exactly one dash is told
as a whole. Otherwise it is the first of its two bounds that is no number. -/
inductive Faulty : List Char → Pattern.Fault → Prop
  | bounds {cs : List Char} (taken : TakenForRange cs) (dashes : cs.count '-' ≠ 1) :
    Faulty cs (.bounds (String.ofList cs))
  | low {before after : List Char} (taken : TakenForRange (before ++ '-' :: after))
    (first : '-' ∉ before) (only : '-' ∉ after) (bad : hexadecimal? before = none) :
    Faulty (before ++ '-' :: after) (.bound (String.ofList before))
  | high {before after : List Char} {low : Nat} (taken : TakenForRange (before ++ '-' :: after))
    (first : '-' ∉ before) (only : '-' ∉ after) (good : hexadecimal? before = some low)
    (bad : hexadecimal? after = none) :
    Faulty (before ++ '-' :: after) (.bound (String.ofList after))

variable {cs : List Char} {fault : Pattern.Fault}

/-- A text that is taken for a range is read as one, and every other text is an alternative. -/
theorem ofText_of_taken (h : TakenForRange cs) : ofText cs = range? cs := by
  unfold ofText
  split
  · exact absurd h.dash (by simp)
  · exact absurd rfl h.not_after
  · exact absurd rfl h.not_before
  · exact if_pos h.dash

theorem exists_ofText_of_not_taken (h : ¬ TakenForRange cs) : ∃ a, ofText cs = .ok a := by
  unfold ofText
  split
  · exact ⟨_, rfl⟩
  · exact ⟨_, rfl⟩
  · exact ⟨_, rfl⟩
  · next c cs not_after not_before =>
    split
    · next hdash =>
      refine absurd ⟨?_, ?_, hdash⟩ h
      · simpa using not_after
      · simpa using not_before
    · exact ⟨_, rfl⟩

/-- A text is cut into two pieces exactly if it has one separator. -/
theorem count_eq_one_iff {sep : Char} :
    cs.count sep = 1 ↔ ∃ before after, split sep cs = [before, after] := by
  simp only [split_eq_pair_iff]
  constructor
  · intro h
    obtain ⟨before, after, rfl⟩ : ∃ before after, cs = before ++ sep :: after :=
      List.append_of_mem (List.count_pos_iff.1 (by omega))
    rw [List.count_append, List.count_cons_self] at h
    exact ⟨before, after, rfl, List.not_mem_of_count_eq_zero (by omega),
      List.not_mem_of_count_eq_zero (by omega)⟩
  · rintro ⟨before, after, rfl, hbefore, hafter⟩
    rw [List.count_append, List.count_cons_self, List.count_eq_zero.2 hbefore,
      List.count_eq_zero.2 hafter]

/-- Only a text that is no number is refused as a bound. -/
theorem bound_eq_error_iff : bound cs = .error fault ↔
    hexadecimal? cs = none ∧ fault = .bound (String.ofList cs) := by
  unfold bound
  cases hexadecimal? cs <;> simp [eq_comm]

theorem bound_eq_ok_iff {n : Nat} : bound cs = .ok n ↔ hexadecimal? cs = some n := by
  unfold bound
  cases hexadecimal? cs <;> simp

/-- The fault of a range is the first of what can be wrong with it. -/
theorem range?_eq_error_iff (h : TakenForRange cs) :
    range? cs = .error fault ↔ Faulty cs fault := by
  constructor
  · intro hrange
    unfold range? at hrange
    split at hrange
    · next before after hsplit =>
      obtain ⟨rfl, first, only⟩ := split_eq_pair_iff.1 hsplit
      rcases bind_eq_error_iff.1 hrange with hlow | ⟨low, hlow, hrest⟩
      · obtain ⟨bad, rfl⟩ := bound_eq_error_iff.1 hlow
        exact .low h first only bad
      · rcases bind_eq_error_iff.1 hrest with hhigh | ⟨high, -, hrest⟩
        · obtain ⟨bad, rfl⟩ := bound_eq_error_iff.1 hhigh
          exact .high h first only (bound_eq_ok_iff.1 hlow) bad
        · cases hrest
    · next hsplit =>
      cases hrange
      refine .bounds h fun hcount => ?_
      obtain ⟨before, after, hpair⟩ := count_eq_one_iff.1 hcount
      exact hsplit before after hpair
  · intro hfaulty
    cases hfaulty with
    | bounds _ dashes =>
      unfold range?
      split
      · next hsplit => exact absurd (count_eq_one_iff.2 ⟨_, _, hsplit⟩) dashes
      · rfl
    | low _ first only bad =>
      rw [range?, split_eq_pair_iff.2 ⟨rfl, first, only⟩]
      exact bind_eq_error_iff.2 (.inl (bound_eq_error_iff.2 ⟨bad, rfl⟩))
    | high _ first only good bad =>
      rw [range?, split_eq_pair_iff.2 ⟨rfl, first, only⟩]
      refine bind_eq_error_iff.2 (.inr ⟨_, bound_eq_ok_iff.2 good, ?_⟩)
      exact bind_eq_error_iff.2 (.inl (bound_eq_error_iff.2 ⟨bad, rfl⟩))

theorem Faulty.taken (h : Faulty cs fault) : TakenForRange cs := by
  cases h with
  | bounds taken | low taken | high taken => exact taken

/-- A text is refused as an alternative for what is wrong with it. -/
theorem ofText_eq_error_iff : ofText cs = .error fault ↔ Faulty cs fault := by
  by_cases htaken : TakenForRange cs
  · rw [ofText_of_taken htaken, range?_eq_error_iff htaken]
  · obtain ⟨a, ha⟩ := exists_ofText_of_not_taken htaken
    rw [ha]
    constructor
    · intro h
      cases h
    · intro h
      exact absurd h.taken htaken

end Alternative

/-! ## Patterns -/

/-- A text is refused as a pattern for the first of its pieces that is no alternative. -/
theorem Pattern.compile_eq_error_iff {source : String} {fault : Pattern.Fault} :
    compile source = .error fault ↔ ∃ before piece after,
      split '|' source.toList = before ++ piece :: after ∧
        (∀ cs ∈ before, Alternative.Legible cs) ∧ Alternative.Faulty piece fault := by
  simp only [compile, mapM_eq_error_iff, Alternative.ofText_eq_error_iff, Alternative.legible_iff,
    Alternative.ofText_eq_ok_iff]

/-! ## Names -/

namespace Entry

/-- Whether a text is a test name: it is not empty, and consists of letters and digits. -/
def IsName (cs : List Char) : Prop := cs ≠ [] ∧ ∀ c ∈ cs, c.isAlphanum

/-- What is wrong with a text that is no test name: it is empty, or has another character than
letters and digits, the first of which is told. -/
inductive BadName : List Char → Fault → Prop
  | unnamed : BadName [] .unnamedTest
  | badName {before after : List Char} {c : Char} (good : ∀ b ∈ before, b.isAlphanum)
    (bad : c.isAlphanum = false) : BadName (before ++ c :: after) (.badName c)

variable {cs : List Char} {fault : Fault}

theorem exists_nameOfText_iff : (∃ name, nameOfText cs = .ok name) ↔ IsName cs := by
  simp only [nameOfText_eq_ok_iff]
  constructor
  · rintro ⟨name, -, hname⟩
    exact hname
  · intro hname
    exact ⟨String.ofList cs, String.toList_ofList, hname⟩

theorem nameOfText_eq_error_iff : nameOfText cs = .error fault ↔ BadName cs fault := by
  constructor
  · intro h
    unfold nameOfText at h
    split at h
    · next hnil =>
      cases h
      rw [hnil]
      exact .unnamed
    · split at h
      · next c hc =>
        cases h
        obtain ⟨hbad, before, after, rfl, hgood⟩ := List.find?_eq_some_iff_append.1 hc
        exact .badName (by simpa using hgood) (by simpa using hbad)
      · cases h
  · intro h
    cases h with
    | unnamed => rfl
    | @badName before after c good bad =>
      have hfind : (before ++ c :: after).find? (!·.isAlphanum) = some c :=
        List.find?_eq_some_iff_append.2 ⟨by simp [bad], before, after, rfl, by simpa using good⟩
      simp [nameOfText, hfind]

/-! ## Entries -/

/-- The first fault from the left of a text that is no entry. The names come before the pattern, and
a fault of the pattern is told only if there is none among the names. -/
inductive FirstFault : List Char → Fault → Prop
  | missingEquals {cs : List Char} (plain : '=' ∉ cs) : FirstFault cs .missingEquals
  | name {names source piece : List Char} {before after : List (List Char)} {fault : Fault}
    (first : '=' ∉ names) (pieces : split '|' names = before ++ piece :: after)
    (good : ∀ name ∈ before, IsName name) (bad : BadName piece fault) :
    FirstFault (names ++ '=' :: source) fault
  | pattern {names source piece : List Char} {before after : List (List Char)}
    {fault : Pattern.Fault} (first : '=' ∉ names) (good : ∀ name ∈ split '|' names, IsName name)
    (pieces : split '|' source = before ++ piece :: after)
    (legible : ∀ alternative ∈ before, Alternative.Legible alternative)
    (bad : Alternative.Faulty piece fault) : FirstFault (names ++ '=' :: source) (.pattern fault)

section
variable {names source : List Char}

/-- Names are read exactly if each is one. -/
theorem exists_mapM_nameOfText_iff {pieces : List (List Char)} :
    (∃ ns, pieces.mapM nameOfText = .ok ns) ↔ ∀ piece ∈ pieces, IsName piece := by
  simp only [mapM_eq_ok_iff, exists_forall₂_iff, exists_nameOfText_iff]

/-- A text with an equals sign is read by its two parts. -/
theorem ofText_append (first : '=' ∉ names) :
    ofText (names ++ '=' :: source) = (do
      let names ← (split '|' names).mapM nameOfText
      let pattern ← (Pattern.ofText (String.ofList source)).mapError .pattern
      return { names, pattern }) := by
  rw [ofText, cut?_eq_some_iff.2 ⟨rfl, first⟩]

/-- A text is refused as an entry for its first fault. -/
theorem ofText_eq_error_iff : ofText cs = .error fault ↔ FirstFault cs fault := by
  constructor
  · intro h
    cases hcut : cut? '=' cs with
    | none =>
      rw [ofText, hcut] at h
      cases h
      exact .missingEquals (cut?_eq_none_iff.1 hcut)
    | some parts =>
      obtain ⟨names, source⟩ := parts
      obtain ⟨rfl, first⟩ := cut?_eq_some_iff.1 hcut
      rw [ofText_append first] at h
      rcases bind_eq_error_iff.1 h with h | ⟨ns, hns, h⟩
      · obtain ⟨before, piece, after, pieces, good, bad⟩ := mapM_eq_error_iff.1 h
        simp only [exists_nameOfText_iff] at good
        exact .name first pieces good (nameOfText_eq_error_iff.1 bad)
      · rcases bind_eq_error_iff.1 h with h | ⟨_, -, h⟩
        · obtain ⟨cause, hcause, rfl⟩ := mapError_eq_error_iff.1 h
          obtain ⟨before, piece, after, pieces, legible, bad⟩ :=
            Pattern.compile_eq_error_iff.1 (Pattern.ofText_eq_error_iff.1 hcause)
          rw [String.toList_ofList] at pieces
          exact .pattern first (exists_mapM_nameOfText_iff.1 ⟨ns, hns⟩) pieces legible bad
        · cases h
  · intro h
    cases h with
    | missingEquals plain => rw [ofText, cut?_eq_none_iff.2 plain]
    | name first pieces good bad =>
      rw [ofText_append first]
      refine bind_eq_error_iff.2 (.inl (mapM_eq_error_iff.2 ⟨_, _, _, pieces, ?_, ?_⟩))
      · simpa only [exists_nameOfText_iff] using good
      · exact nameOfText_eq_error_iff.2 bad
    | @pattern names source piece before after fault first good pieces legible bad =>
      obtain ⟨ns, hns⟩ := exists_mapM_nameOfText_iff.2 good
      have hcause : Pattern.ofText (String.ofList source) = .error fault := by
        refine Pattern.ofText_eq_error_iff.2 (Pattern.compile_eq_error_iff.2 ?_)
        rw [String.toList_ofList]
        exact ⟨before, piece, after, pieces, legible, bad⟩
      rw [ofText_append first, hns, ok_bind, hcause]
      rfl

end

/-- A text is an entry exactly if it has an equals sign, the pieces before the first one are names,
and the text after it is a pattern. -/
theorem exists_ofText_eq_ok_iff :
    (∃ e, ofText cs = .ok e) ↔ ∃ names source, cs = names ++ '=' :: source ∧ '=' ∉ names ∧
      (∀ piece ∈ split '|' names, IsName piece) ∧
      ∃ p, Pattern.ofText (String.ofList source) = .ok p := by
  constructor
  · rintro ⟨e, he⟩
    obtain ⟨names, hcut, hnames⟩ := ofText_eq_ok_iff.1 he
    obtain ⟨hcs, first⟩ := cut?_eq_some_iff.1 hcut
    refine ⟨names, _, hcs, first, ?_, e.pattern, ?_⟩
    · exact exists_mapM_nameOfText_iff.1 ⟨_, mapM_eq_ok_iff.2 hnames⟩
    · rw [String.ofList_toList, Pattern.ofText_source]
  · rintro ⟨names, source, rfl, first, good, p, hp⟩
    obtain ⟨ns, hns⟩ := exists_mapM_nameOfText_iff.2 good
    rw [ofText_append first, hns, ok_bind, hp]
    exact ⟨_, rfl⟩

/-- **Entries.** A text is an entry exactly if it has an equals sign, the pieces before the first
one are names, and the text after it is a pattern. The names, joined again, the equals sign and the
source of the pattern are then the text, and the pattern has an alternative for each piece of its
source. Any other text is refused for its first fault. -/
theorem ofText_lossless (cs : List Char) :
    ((∃ e, ofText cs = .ok e) ↔ ∃ names source, cs = names ++ '=' :: source ∧ '=' ∉ names ∧
        (∀ piece ∈ split '|' names, IsName piece) ∧
        ∃ p, Pattern.ofText (String.ofList source) = .ok p) ∧
      (∀ e, ofText cs = .ok e →
        ['|'].intercalate (e.names.map (·.toList)) ++ '=' :: e.pattern.source.toList = cs ∧
          e.pattern.alternatives.length = (split '|' e.pattern.source.toList).length) ∧
      ∀ fault, ofText cs = .error fault ↔ FirstFault cs fault := by
  refine ⟨exists_ofText_eq_ok_iff, fun e he => ⟨text_eq_of_ofText he, ?_⟩,
    fun fault => ofText_eq_error_iff⟩
  exact (Pattern.compile_eq_ok_iff.1 e.pattern.compiled).length_eq.symm

/-- An equals sign in the pattern does not divide it, and neither do separators among the names. Of
two names that are none the first is told, by its first character that is neither letter nor digit,
and not the range after the equals sign; among good names it is the range, whose number of bounds
is told before the bounds. -/
theorem ofText_lossless_every_part :
    (∃ e, ofText "W1|W2=0|5B40=|".toList = .ok e ∧
        ['|'].intercalate (e.names.map (·.toList)) ++ '=' :: e.pattern.source.toList =
          "W1|W2=0|5B40=|".toList ∧ e.pattern.alternatives.length = 3) ∧
      ofText "W1|W-2+|=1-2-3".toList = .error (.badName '-') ∧
      ofText "W1|W2=Z|1-XY-3|1-XY".toList = .error (.pattern (.bounds "1-XY-3")) := by
  refine ⟨?_, ?_, ?_⟩
  · obtain ⟨e, he⟩ : ∃ e, ofText "W1|W2=0|5B40=|".toList = .ok e :=
      exists_eq_ok_of_isOk (by decide +kernel)
    obtain ⟨htext, hlength⟩ := (ofText_lossless _).2.1 e he
    have hsource : e.pattern.source = "0|5B40=|" := by
      obtain ⟨names, hcut, -⟩ := ofText_eq_ok_iff.1 he
      have hcut' : cut? '=' "W1|W2=0|5B40=|".toList = some ("W1|W2".toList, "0|5B40=|".toList) := by
        decide
      rw [hcut'] at hcut
      exact String.toList_inj.1 (Prod.mk.inj (Option.some.inj hcut)).2.symm
    rw [hsource] at hlength
    exact ⟨e, he, htext, hlength⟩
  · refine ((ofText_lossless _).2.2 _).2 (@FirstFault.name "W1|W-2+|".toList "1-2-3".toList
      "W-2+".toList ["W1".toList] [[]] _ (by decide) (by decide +kernel) ?_ ?_)
    · exact List.forall_mem_singleton.2 ⟨by decide, List.all_eq_true.1 (by decide)⟩
    · exact @BadName.badName ['W'] "2+".toList '-' (by simp) (by decide)
  · refine ((ofText_lossless _).2.2 _).2 (@FirstFault.pattern "W1|W2".toList
      "Z|1-XY-3|1-XY".toList "1-XY-3".toList [['Z']] ["1-XY".toList] _ (by decide) ?_
      (by decide +kernel) ?_ ?_)
    · have hpieces : split '|' "W1|W2".toList = ["W1".toList, "W2".toList] := by decide +kernel
      rw [hpieces]
      exact List.forall_mem_cons.2 ⟨⟨by decide, List.all_eq_true.1 (by decide)⟩,
        List.forall_mem_singleton.2 ⟨by decide, List.all_eq_true.1 (by decide)⟩⟩
    · exact List.forall_mem_singleton.2 (.inr (.inr (.inr (.inl (by decide)))))
    · exact .bounds ⟨by decide, by decide, by decide⟩ (by decide)

end Entry

end OsDetection
