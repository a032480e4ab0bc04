import OsDetection.Proofs.Patterns

/-!
# Patterns in writing

A compiled alternative can be written as a text again, which need not be the one that it was read
from: the bounds of a range are numbers, and may have had blanks, signs and marks about them.
`Alternative.Writes` says which texts an alternative is written as; `Alternative.text` is one of
them. Such a text is read as the same alternative (`Alternative.Reads.of_writes`), since what is
written of one kind has no part by which another kind is told. So the alternatives of a pattern,
each in writing, make a pattern with the same alternatives (`Pattern.ofText_in_writing`).
-/

namespace OsDetection

open OsDetection.Text OsDetection.Numeral

namespace Alternative

/-- The texts that an alternative is written as. The bounds of a range are written in hexadecimal
digits, be they capital or small letters. -/
inductive Writes : Alternative → List Char → Prop
  | empty : Writes empty []
  | literal (text : String) : Writes (literal text) text.toList
  | range {low high : Nat} {before after : List Char} (low_spelled : Spells 16 before low)
    (high_spelled : Spells 16 after high) : Writes (range low high) (before ++ '-' :: after)
  | after (text : String) : Writes (beyond .after text) ('>' :: text.toList)
  | before (text : String) : Writes (beyond .before text) ('<' :: text.toList)

/-- The text of an alternative is one of those that it is written as. -/
theorem writes_text (a : Alternative) : Writes a a.text := by
  cases a with
  | empty => exact .empty
  | literal text => exact .literal text
  | range low high =>
    exact .range (spells_toDigits (by decide) (by decide) low)
      (spells_toDigits (by decide) (by decide) high)
  | beyond side text =>
    cases side with
    | after => exact .after text
    | before => exact .before text

variable {cs text : List Char} {a : Alternative}

/-- What an alternative is written as is read as the alternative. -/
theorem Reads.of_writes (h : Reads cs a) (hwrites : Writes a text) : Reads text a := by
  cases h with
  | empty =>
    cases hwrites
    exact .empty
  | after text =>
    cases hwrites
    rw [String.toList_ofList]
    exact .after text
  | before text =>
    cases hwrites
    rw [String.toList_ofList]
    exact .before text
  | literal not_after not_before no_dash =>
    cases hwrites
    rw [String.toList_ofList]
    exact .literal not_after not_before no_dash
  | range spells =>
    cases spells with
    | bounds first only low_eq high_eq =>
      cases hwrites with
      | range low_spelled high_spelled =>
        have hdash {ds : List Char} {n : Nat} (h : Spells 16 ds n) : '-' ∉ ds := fun hmem =>
          absurd (h.isAlphanum '-' hmem) (by decide)
        exact .range (.bounds (hdash low_spelled) (hdash high_spelled)
          (hexadecimal?_of_spells low_spelled (lt_of_hexadecimal? low_eq))
          (hexadecimal?_of_spells high_spelled (lt_of_hexadecimal? high_eq)))

/-- A sign that is no letter, digit or dash and is missing in the text that an alternative was read
from is missing in what it is written as. -/
theorem Reads.not_mem_of_writes (h : Reads cs a) (hwrites : Writes a text) {sep : Char}
    (hsign : sep.isAlphanum = false) (hdash : sep ≠ '-') (hsep : sep ∉ cs) : sep ∉ text := by
  cases h with
  | empty =>
    cases hwrites
    exact hsep
  | after text | before text | literal =>
    cases hwrites
    rwa [String.toList_ofList]
  | range =>
    cases hwrites with
    | @range _ _ before after low_spelled high_spelled =>
      have hnumber {ds : List Char} {n : Nat} (h : Spells 16 ds n) : sep ∉ ds := fun hmem => by
        rw [h.isAlphanum sep hmem] at hsign
        cases hsign
      simp [hnumber low_spelled, hnumber high_spelled, hdash]

/-- Alternatives in writing are read as the same alternatives, and hold no separator if the texts
that they were read from hold none. -/
theorem forall₂_reads_of_writes {pieces texts : List (List Char)} {as : List Alternative}
    (hreads : List.Forall₂ Reads pieces as) (hpieces : ∀ piece ∈ pieces, '|' ∉ piece)
    (hwrites : List.Forall₂ Writes as texts) :
    List.Forall₂ Reads texts as ∧ ∀ text ∈ texts, '|' ∉ text := by
  induction hreads generalizing texts with
  | nil =>
    cases hwrites
    exact ⟨.nil, by simp⟩
  | cons reads _ ih =>
    obtain ⟨hpiece, hpieces⟩ := List.forall_mem_cons.1 hpieces
    cases hwrites with
    | cons writes hwrites =>
      obtain ⟨hrest, hseparate⟩ := ih hpieces hwrites
      exact ⟨.cons (reads.of_writes writes) hrest, List.forall_mem_cons.2
        ⟨reads.not_mem_of_writes writes (by decide) (by decide) hpiece, hseparate⟩⟩

end Alternative

namespace Pattern

variable {p : Pattern}

/-- The alternatives of a pattern, each in writing and separated again, are compiled to the same
alternatives. -/
theorem compile_of_writes {texts : List (List Char)}
    (h : List.Forall₂ Alternative.Writes p.alternatives texts) :
    compile (String.ofList (['|'].intercalate texts)) = .ok p.alternatives := by
  have hreads := compile_eq_ok_iff.1 p.compiled
  obtain ⟨hread, hseparate⟩ :=
    Alternative.forall₂_reads_of_writes hreads (fun _ hpiece => not_mem_of_mem_split hpiece) h
  have hne : texts ≠ [] := by
    -- There is a text for every alternative, and an alternative for every piece of the source.
    intro hnil
    rw [hnil, List.forall₂_nil_right_iff] at h
    rw [h, List.forall₂_nil_right_iff] at hreads
    exact split_ne_nil _ _ hreads
  rw [compile_eq_ok_iff, String.toList_ofList, split_intercalate hne hseparate]
  exact hread

/-- What patterns with the same alternatives accept is the same. -/
theorem accepts_congr {q : Pattern} (h : q.alternatives = p.alternatives) (value : String) :
    q.accepts value = p.accepts value := by
  rw [accepts, accepts, h]

/-- **Patterns can be written.** The text made of a pattern's alternatives is a pattern with the
same alternatives, which accepts the same values. So is every text in which the alternatives are
written, whatever digits stand for the bounds of its ranges. -/
theorem ofText_in_writing (p : Pattern) :
    (∃ q, ofText (String.ofList p.canonicalText) = .ok q ∧ q.alternatives = p.alternatives ∧
        ∀ value, q.accepts value = p.accepts value) ∧
      ∀ texts, List.Forall₂ Alternative.Writes p.alternatives texts →
        ∃ q, ofText (String.ofList (['|'].intercalate texts)) = .ok q ∧
          q.alternatives = p.alternatives ∧ ∀ value, q.accepts value = p.accepts value := by
  have hwritten (texts : List (List Char))
      (h : List.Forall₂ Alternative.Writes p.alternatives texts) :
      ∃ q, ofText (String.ofList (['|'].intercalate texts)) = .ok q ∧
        q.alternatives = p.alternatives ∧ ∀ value, q.accepts value = p.accepts value :=
    ⟨⟨_, _, compile_of_writes h⟩, ofText_eq_ok_iff.2 rfl, rfl, accepts_congr rfl⟩
  refine ⟨hwritten _ ?_, hwritten⟩
  exact List.forall₂_map_right_iff.2 (List.forall₂_same.2 fun a _ => Alternative.writes_text a)

/-- A literal with a dash before it, a range with its bounds turned round, the empty text and signs
of order, one of them before nothing. The range is written in digits alone. -/
theorem ofText_in_writing_every_kind :
    ∃ p q r, ofText "-5|+0X0ff- 010||>a=-b|<" = .ok p ∧
      ofText "-5|ff-10||>a=-b|<" = .ok q ∧ q.alternatives = p.alternatives ∧
      ofText "-5|00FF-10||>a=-b|<" = .ok r ∧ r.alternatives = p.alternatives ∧
      p.alternatives = [.literal "-5", .range 255 16, .empty, .beyond .after "a=-b",
        .beyond .before ""] := by
  let p : Pattern := ⟨"-5|+0X0ff- 010||>a=-b|<", [.literal "-5", .range 255 16, .empty,
    .beyond .after "a=-b", .beyond .before ""], by decide +kernel⟩
  obtain ⟨⟨q, hq, hsame, -⟩, hwritten⟩ := ofText_in_writing p
  have hlow : Spells 16 "00FF".toList 255 :=
    (ofText?_eq_some_iff.1 (by decide : ofText? 16 256 "00FF".toList = some 255)).1
  have hhigh : Spells 16 "10".toList 16 :=
    (ofText?_eq_some_iff.1 (by decide : ofText? 16 256 "10".toList = some 16)).1
  have htexts : List.Forall₂ Alternative.Writes p.alternatives
      ["-5".toList, "00FF".toList ++ '-' :: "10".toList, [], '>' :: "a=-b".toList, ['<']] :=
    .cons (.literal "-5") (.cons (.range hlow hhigh) (.cons .empty (.cons (.after "a=-b")
      (.cons (.before "") .nil))))
  obtain ⟨r, hr, hsame', -⟩ := hwritten _ htexts
  have hcanonical : String.ofList p.canonicalText = "-5|ff-10||>a=-b|<" := by decide +kernel
  rw [hcanonical] at hq
  exact ⟨p, q, r, ofText_source p, hq, hsame, hr, hsame', rfl⟩

end Pattern

end OsDetection
