import OsDetection.Proofs.Folds
import OsDetection.Proofs.Numeral.Hexadecimal
import OsDetection.Proofs.Text.Encoding

/-!
# What a pattern says

The language of patterns, from the text of one to the values that it accepts. `Alternative.Reads`
lists how the texts of alternatives are read, one rule for each kind; it is what is read
(`Alternative.ofText_eq_ok_iff`), so that a text may be an alternative exactly if it is `Legible`,
and a value is accepted exactly if it `Matches` the text. A pattern is legible if each of its
alternatives is, and accepts what one of them matches; two patterns joined by the separator accept
what one of the two accepts (`Pattern.ofText_reads_alternatives`).
-/

namespace OsDetection

open OsDetection.Text OsDetection.Numeral

/-! ## Cutting joined texts -/

/-- The pieces of two texts with a separator between them are those of either. -/
theorem Text.split_append_sep_append (sep : Char) (cs ds : List Char) :
    split sep (cs ++ sep :: ds) = split sep cs ++ split sep ds := by
  induction cs with
  | nil => simp
  | cons c cs ih =>
    by_cases hc : c = sep
    · rw [hc, List.cons_append, split_cons_sep, ih, split_cons_sep, List.cons_append]
    · obtain ⟨piece, rest, hs, hcons⟩ := split_cons hc cs
      obtain ⟨piece', rest', hs', hcons'⟩ := split_cons hc (cs ++ sep :: ds)
      rw [ih, hs, List.cons_append] at hs'
      cases hs'
      rw [hcons, List.cons_append, hcons', List.cons_append]

/-- A text is cut into two pieces exactly if the separator stands between them, and nowhere else. -/
theorem Text.split_eq_pair_iff {sep : Char} {cs before after : List Char} :
    split sep cs = [before, after] ↔ cs = before ++ sep :: after ∧ sep ∉ before ∧ sep ∉ after := by
  constructor
  · intro h
    have hjoined := intercalate_split sep cs
    rw [h, List.intercalate_cons_cons, List.intercalate_singleton] at hjoined
    refine ⟨by simpa using hjoined.symm, ?_, ?_⟩
    · exact @not_mem_of_mem_split _ cs _ (by simp [h])
    · exact @not_mem_of_mem_split _ cs _ (by simp [h])
  · rintro ⟨rfl, hbefore, hafter⟩
    rw [split_append_sep hbefore, split_of_not_mem hafter]

/-! ## Alternatives -/

namespace Alternative

/-- A text that spells a range of numbers: the two bounds, and the only dash between them. -/
inductive SpellsRange : List Char → Nat → Nat → Prop
  | bounds {before after : List Char} {low high : Nat} (first : '-' ∉ before) (only : '-' ∉ after)
    (low_eq : hexadecimal? before = some low) (high_eq : hexadecimal? after = some high) :
    SpellsRange (before ++ '-' :: after) low high

/-- Whether a text may be an alternative: it is empty, begins with a sign of order, has no dash
after its first character, or spells a range. -/
def Legible (cs : List Char) : Prop :=
  cs = [] ∨ cs.head? = some '>' ∨ cs.head? = some '<' ∨ '-' ∉ cs.tail ∨
    ∃ low high, SpellsRange cs low high

/-- Whether a value matches a text that is an alternative. After a sign of order the value is
compared with the text by the bytes of both, against a range as a number, and otherwise it is the
text. -/
inductive Matches (value : String) : List Char → Prop
  | empty (is_empty : value = "") : Matches value []
  | after {text : String} (above : utf8 text < utf8 value) : Matches value ('>' :: text.toList)
  | before {text : String} (below : utf8 value < utf8 text) : Matches value ('<' :: text.toList)
  | range {cs : List Char} {low high n : Nat} (spells : SpellsRange cs low high)
    (number : hexadecimal? value.toList = some n) (above : low ≤ n) (below : n ≤ high) :
    Matches value cs
  | literal {cs : List Char} (visible : cs ≠ []) (not_after : cs.head? ≠ some '>')
    (not_before : cs.head? ≠ some '<') (not_range : ∀ low high, ¬ SpellsRange cs low high)
    (same : value.toList = cs) : Matches value cs

/-- How the texts of alternatives are read. -/
inductive Reads : List Char → Alternative → Prop
  | empty : Reads [] .empty
  | after (text : List Char) : Reads ('>' :: text) (.beyond .after (String.ofList text))
  | before (text : List Char) : Reads ('<' :: text) (.beyond .before (String.ofList text))
  | range {cs : List Char} {low high : Nat} (spells : SpellsRange cs low high) :
    Reads cs (.range low high)
  | literal {c : Char} {cs : List Char} (not_after : c ≠ '>') (not_before : c ≠ '<')
    (no_dash : '-' ∉ cs) : Reads (c :: cs) (.literal (String.ofList (c :: cs)))

/-! ### Ranges -/

section
variable {cs : List Char} {low high : Nat}

/-- A text that begins with a sign of order spells no range. -/
theorem not_spellsRange_cons {c : Char} (h : c = '>' ∨ c = '<') :
    ¬ SpellsRange (c :: cs) low high := by
  have hsign : c ≠ '-' ∧ ¬ (isBlank c ∨ c = '+' ∨ c.isAlphanum) := by
    rcases h with rfl | rfl <;> decide
  intro hspells
  generalize hcs : c :: cs = ds at hspells
  cases hspells with
  | @bounds before after _ _ _ _ low_eq _ =>
    cases before with
    | nil => exact hsign.1 (List.cons.inj hcs).1
    | cons b before =>
      obtain ⟨rfl, -⟩ := List.cons.inj hcs
      exact hsign.2 ((hexadecimal?_eq_some_iff.1 low_eq).1.isBlank_or c (by simp))

/-- A range has a dash after its first character. -/
theorem SpellsRange.dash_mem_tail (h : SpellsRange cs low high) : '-' ∈ cs.tail := by
  cases h with
  | @bounds before after _ _ _ _ low_eq _ =>
    cases before with
    | nil => cases low_eq.symm.trans (rfl : hexadecimal? [] = none)
    | cons b before => simp

/-- A text with dashes is read as the range that it spells. -/
theorem range?_eq_ok_iff {a : Alternative} :
    range? cs = .ok a ↔ ∃ low high, SpellsRange cs low high ∧ a = .range low high := by
  constructor
  · intro h
    unfold range? at h
    split at h
    · next before after hsplit =>
      obtain ⟨rfl, hfirst, honly⟩ := split_eq_pair_iff.1 hsplit
      obtain ⟨low, hlow, h⟩ := bind_eq_ok_iff.1 h
      obtain ⟨high, hhigh, h⟩ := bind_eq_ok_iff.1 h
      cases h
      unfold bound at hlow hhigh
      split at hlow
      · next hbefore =>
        cases hlow
        split at hhigh
        · next hafter =>
          cases hhigh
          exact ⟨low, high, .bounds hfirst honly hbefore hafter, rfl⟩
        · cases hhigh
      · cases hlow
    · cases h
  · rintro ⟨low, high, hspells, rfl⟩
    cases hspells with
    | @bounds before after _ _ first only low_eq high_eq =>
      have hsplit := split_eq_pair_iff.2 ⟨rfl, first, only⟩
      simp only [range?, hsplit, bound, low_eq, high_eq]
      rfl

end

/-! ### Reading -/

variable {cs : List Char} {a : Alternative}

/-- A text is read as the rules say. -/
theorem ofText_eq_ok_iff : ofText cs = .ok a ↔ Reads cs a := by
  constructor
  · intro h
    unfold ofText at h
    split at h
    · cases h
      exact .empty
    · cases h
      exact .after _
    · cases h
      exact .before _
    · next c cs not_after not_before =>
      split at h
      · obtain ⟨low, high, hspells, rfl⟩ := range?_eq_ok_iff.1 h
        exact .range hspells
      · next no_dash =>
        cases h
        exact .literal not_after not_before no_dash
  · intro h
    cases h with
    | empty | after | before => rfl
    | @range cs low high spells =>
      cases cs with
      | nil => exact absurd spells.dash_mem_tail (by simp)
      | cons c cs =>
        have not_after : c ≠ '>' := fun hc => not_spellsRange_cons (.inl hc) spells
        have not_before : c ≠ '<' := fun hc => not_spellsRange_cons (.inr hc) spells
        have hdash : '-' ∈ cs := spells.dash_mem_tail
        simp [ofText, hdash, range?_eq_ok_iff.2 ⟨low, high, spells, rfl⟩]
    | literal not_after not_before no_dash => simp [ofText, no_dash]

/-- A text may be an alternative exactly if it is read as one. -/
theorem legible_iff : Legible cs ↔ ∃ a, Reads cs a := by
  constructor
  · intro h
    cases cs with
    | nil => exact ⟨_, .empty⟩
    | cons c cs =>
      by_cases not_after : c = '>'
      · exact not_after ▸ ⟨_, .after cs⟩
      · by_cases not_before : c = '<'
        · exact not_before ▸ ⟨_, .before cs⟩
        · obtain h | h | h | no_dash | ⟨low, high, hspells⟩ := h
          · cases h
          · exact absurd (Option.some.inj h) not_after
          · exact absurd (Option.some.inj h) not_before
          · exact ⟨_, .literal not_after not_before no_dash⟩
          · exact ⟨_, .range hspells⟩
  · rintro ⟨a, h⟩
    cases h with
    | empty => exact .inl rfl
    | after => exact .inr (.inl rfl)
    | before => exact .inr (.inr (.inl rfl))
    | literal _ _ no_dash => exact .inr (.inr (.inr (.inl no_dash)))
    | range hspells => exact .inr (.inr (.inr (.inr ⟨_, _, hspells⟩)))

/-- A text is read in one way only. -/
theorem Reads.unique {b : Alternative} (h : Reads cs a) (h' : Reads cs b) : a = b :=
  Except.ok.inj ((ofText_eq_ok_iff.2 h).symm.trans (ofText_eq_ok_iff.2 h'))

/-- What an alternative accepts matches its text. -/
theorem Reads.matches_of_accepts {value : String} (h : Reads cs a) (haccepts : a.accepts value) :
    Matches value cs := by
  cases h with
  | empty => exact .empty (by simpa [accepts] using haccepts)
  | after text =>
    have hlt : String.ofList text < value := by simpa [accepts] using haccepts
    simpa using Matches.after (utf8_lt_utf8_iff.2 hlt)
  | before text =>
    have hlt : value < String.ofList text := by simpa [accepts] using haccepts
    simpa using Matches.before (utf8_lt_utf8_iff.2 hlt)
  | range spells =>
    obtain ⟨n, number, hbounds⟩ := (Option.any_eq_true _ _).1 haccepts
    obtain ⟨above, below⟩ : _ ∧ _ := by simpa using hbounds
    exact .range spells number above below
  | @literal c cs not_after not_before no_dash =>
    refine .literal (List.cons_ne_nil _ _) (by simpa using not_after) (by simpa using not_before)
      (fun low high spells => no_dash spells.dash_mem_tail) ?_
    have hsame : value = String.ofList (c :: cs) := by simpa [accepts] using haccepts
    rw [hsame, String.toList_ofList]

/-- What matches the text of an alternative is accepted. -/
theorem Reads.accepts_of_matches {value : String} (h : Reads cs a) (hmatches : Matches value cs) :
    a.accepts value := by
  cases hmatches with
  | empty is_empty =>
    obtain rfl := h.unique .empty
    simpa [accepts] using is_empty
  | after above =>
    obtain rfl := h.unique (.after _)
    simpa [accepts] using utf8_lt_utf8_iff.1 above
  | before below =>
    obtain rfl := h.unique (.before _)
    simpa [accepts] using utf8_lt_utf8_iff.1 below
  | range spells number above below =>
    obtain rfl := h.unique (.range spells)
    simp [accepts, number, above, below]
  | literal visible not_after not_before not_range same =>
    cases h with
    | empty => exact absurd rfl visible
    | after => exact absurd rfl not_after
    | before => exact absurd rfl not_before
    | range spells => exact absurd spells (not_range _ _)
    | literal => simp [accepts, ← same]

/-- A value is accepted exactly if it matches the text of the alternative. -/
theorem Reads.accepts_iff (h : Reads cs a) (value : String) : a.accepts value ↔ Matches value cs :=
  ⟨h.matches_of_accepts, h.accepts_of_matches⟩

end Alternative

/-! ## Patterns -/

namespace Pattern

/-- A text is a pattern exactly if its pieces are alternatives, and these are the pattern's. -/
theorem compile_eq_ok_iff {source : String} {as : List Alternative} :
    compile source = .ok as ↔ List.Forall₂ Alternative.Reads (split '|' source.toList) as := by
  simp only [compile, mapM_eq_ok_iff, Alternative.ofText_eq_ok_iff]

theorem exists_ofText_eq_ok_iff {source : String} :
    (∃ p, ofText source = .ok p) ↔ ∀ cs ∈ split '|' source.toList, Alternative.Legible cs := by
  simp only [Alternative.legible_iff, ← exists_forall₂_iff, ← compile_eq_ok_iff]
  refine ⟨fun ⟨p, hp⟩ => ?_, fun ⟨as, has⟩ => ?_⟩
  · obtain rfl := ofText_eq_ok_iff.1 hp
    exact ⟨_, p.compiled⟩
  · exact ⟨⟨source, as, has⟩, ofText_eq_ok_iff.2 rfl⟩

/-- A pattern accepts what matches one of the pieces of its source. -/
theorem accepts_iff (p : Pattern) (value : String) :
    p.accepts value ↔ ∃ cs ∈ split '|' p.source.toList, Alternative.Matches value cs := by
  have hreads := compile_eq_ok_iff.1 p.compiled
  rw [accepts, List.any_eq_true]
  generalize split '|' p.source.toList = pieces at hreads ⊢
  generalize p.alternatives = as at hreads ⊢
  induction hreads with
  | nil => simp
  | cons reads _ ih => simp [ih, reads.accepts_iff]

/-- **The language of patterns.** A text is a pattern exactly if each of its pieces is legible, and
then accepts the values that match one of them. Two texts joined by the separator are a pattern
exactly if either is one, and then accept what one of the two accepts. -/
theorem ofText_reads_alternatives (source other : String) :
    ((∃ p, ofText source = .ok p) ↔
        ∀ cs ∈ split '|' source.toList, Alternative.Legible cs) ∧
      (∀ p, ofText source = .ok p → ∀ value, p.accepts value ↔
        ∃ cs ∈ split '|' source.toList, Alternative.Matches value cs) ∧
      ((∃ r, ofText (source ++ "|" ++ other) = .ok r) ↔
        (∃ p, ofText source = .ok p) ∧ ∃ q, ofText other = .ok q) ∧
      ∀ p q r, ofText source = .ok p → ofText other = .ok q →
        ofText (source ++ "|" ++ other) = .ok r →
        ∀ value, r.accepts value ↔ p.accepts value ∨ q.accepts value := by
  have hjoined : split '|' (source ++ "|" ++ other).toList =
      split '|' source.toList ++ split '|' other.toList := by
    rw [← split_append_sep_append]
    simp
  refine ⟨exists_ofText_eq_ok_iff, fun p hp value => ?_, ?_, fun p q r hp hq hr value => ?_⟩
  · rw [accepts_iff, ofText_eq_ok_iff.1 hp]
  · rw [exists_ofText_eq_ok_iff, exists_ofText_eq_ok_iff, exists_ofText_eq_ok_iff, hjoined,
      List.forall_mem_append]
  · rw [accepts_iff, accepts_iff, accepts_iff, ofText_eq_ok_iff.1 hp, ofText_eq_ok_iff.1 hq,
      ofText_eq_ok_iff.1 hr, hjoined]
    simp only [List.mem_append, or_and_right, exists_or]

/-- A literal that begins with a dash, a range, the empty text and a sign of order. A number is in
the range however it is spelled, and a character of four bytes comes after one of two. -/
theorem ofText_reads_alternatives_every_kind :
    ∃ p q r, ofText "-5|10-0x20" = .ok p ∧ ofText "|>é" = .ok q ∧
      ofText ("-5|10-0x20" ++ "|" ++ "|>é") = .ok r ∧
      r.accepts "-5" ∧ r.accepts " +1f" ∧ r.accepts "" ∧ r.accepts "𝄞" := by
  obtain ⟨hp, hpaccepts, hr, hraccepts⟩ := ofText_reads_alternatives "-5|10-0x20" "|>é"
  obtain ⟨hq, hqaccepts, -⟩ := ofText_reads_alternatives "|>é" ""
  have hpieces : split '|' "-5|10-0x20".toList = ["-5".toList, "10-0x20".toList] := by
    decide +kernel
  have hpieces' : split '|' "|>é".toList = [[], ">é".toList] := by decide +kernel
  have hrange : Alternative.SpellsRange "10-0x20".toList 16 32 :=
    @Alternative.SpellsRange.bounds "10".toList "0x20".toList 16 32 (by decide) (by decide)
      (by decide +kernel) (by decide +kernel)
  rw [hpieces] at hp hpaccepts
  rw [hpieces'] at hq hqaccepts
  have hlegible : ∀ cs ∈ ["-5".toList, "10-0x20".toList], Alternative.Legible cs :=
    List.forall_mem_cons.2 ⟨.inr (.inr (.inr (.inl (by decide)))),
      List.forall_mem_singleton.2 (.inr (.inr (.inr (.inr ⟨_, _, hrange⟩))))⟩
  have hlegible' : ∀ cs ∈ [[], ">é".toList], Alternative.Legible cs :=
    List.forall_mem_cons.2 ⟨.inl rfl, List.forall_mem_singleton.2 (.inr (.inl rfl))⟩
  obtain ⟨p, hp⟩ := hp.2 hlegible
  obtain ⟨q, hq⟩ := hq.2 hlegible'
  obtain ⟨r, hr⟩ := hr.2 ⟨⟨p, hp⟩, ⟨q, hq⟩⟩
  refine ⟨p, q, r, hp, hq, hr, ?_, ?_, ?_, ?_⟩ <;> rw [hraccepts p q r hp hq hr]
  · refine .inl ((hpaccepts p hp _).2 ⟨"-5".toList, by simp, ?_⟩)
    exact .literal (by decide) (by decide) (by decide)
      (fun low high hspells => absurd hspells.dash_mem_tail (by decide)) rfl
  · have hnumber : hexadecimal? " +1f".toList = some 31 := by decide +kernel
    exact .inl ((hpaccepts p hp _).2
      ⟨_, by simp, .range hrange hnumber (by decide) (by decide)⟩)
  · exact .inr ((hqaccepts q hq _).2 ⟨_, by simp, .empty rfl⟩)
  · have hlast : utf8 "é" < utf8 "𝄞" := by decide +kernel
    exact .inr ((hqaccepts q hq _).2 ⟨_, by simp, .after hlast⟩)

end Pattern

end OsDetection
