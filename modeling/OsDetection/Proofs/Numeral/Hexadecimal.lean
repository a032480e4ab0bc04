import Mathlib.Data.List.Induction
import Mathlib.Data.Nat.Digits.Defs
import OsDetection.Pattern
import OsDetection.Proofs.Numeral.Spelled

/-!
# Hexadecimal numbers

Observed values and the bounds of ranges are hexadecimal numbers, and one number has many spellings:
its digits may be capitals or small letters, with zeros before them, and around them there may be a
mark, a plus sign and blanks (`SpellsHexadecimal`). What is read are the spellings of the numbers
that take no more than 64 bits, however long these are (`hexadecimal?_eq_some_iff`), and each is a
spelling of one number only (`SpellsHexadecimal.unique`). In small letters, the digits of a number
are those that it is written in, after zeros (`hexDigits_iff_toDigits`). So a number can be spelled
in any of these ways without a range telling the difference (`hexadecimal_in_every_spelling`).
-/

namespace OsDetection

open OsDetection.Text

namespace Numeral

/-- A text that is a number in hexadecimal digits, at least one. In small letters these are the
characters that digits below sixteen are written as, the most significant first. -/
structure HexDigits (cs : List Char) (n : Nat) : Prop where
  visible : cs ≠ []
  value : ∃ ds : List Nat, (∀ d ∈ ds, d < 16) ∧ cs.map Char.toLower = ds.map Nat.digitChar ∧
    Nat.ofDigits 16 ds.reverse = n

/-- A text made of digits and what may be around them: a hexadecimal mark before the digits, a plus
sign before the mark, and blanks on either side. -/
inductive Wraps : List Char → List Char → Prop
  | around {before sign mark digits after : List Char} (blank : ∀ c ∈ before ++ after, isBlank c)
    (signed : sign = [] ∨ sign = ['+'])
    (marked : mark = [] ∨ mark = ['0', 'x'] ∨ mark = ['0', 'X']) :
    Wraps (before ++ (sign ++ (mark ++ digits)) ++ after) digits

/-- A text that spells a number in hexadecimal. The number may be of any size. -/
def SpellsHexadecimal (cs : List Char) (n : Nat) : Prop :=
  ∃ digits, Wraps cs digits ∧ HexDigits digits n

/-! ## Digits -/

/-- What is checked for the first characters, code by code, holds of each of them. -/
theorem of_toNat_lt {bound : Nat} {P : Char → Prop} (h : ∀ k : Fin bound, P (Char.ofNat k))
    {c : Char} (hc : c.toNat < bound) : P c := by
  have hcode := h ⟨c.toNat, hc⟩
  rwa [Char.ofNat_toNat] at hcode

/-- A letter has the same value as a digit in either case. -/
theorem digit?_toLower (c : Char) : digit? c.toLower = digit? c := by
  have hfirst : ∀ k : Fin 91, digit? (Char.ofNat k).toLower = digit? (Char.ofNat k) := by decide
  by_cases hc : c ≤ 'Z'
  · have hle : c.toNat ≤ 90 := UInt32.le_iff_toNat_le.1 (Char.le_def.1 hc)
    have hlt : c.toNat < 91 := by omega
    exact of_toNat_lt (P := fun c => digit? c.toLower = digit? c) hfirst hlt
  · have hsame : c.toLower = c := dif_neg fun hcapital => hc hcapital.2
    rw [hsame]

/-- The digits below sixteen are, in small letters, the characters that they are written as. -/
theorem digitBelow?_sixteen_eq_some_iff {c : Char} {d : Nat} :
    digitBelow? 16 c = some d ↔ d < 16 ∧ c.toLower = d.digitChar := by
  have hfirst : ∀ k : Fin 123, ∀ d ∈ digitBelow? 16 (Char.ofNat k),
      d < 16 ∧ (Char.ofNat k).toLower = d.digitChar := by decide
  constructor
  · intro h
    have hcode := toNat_of_isAlphanum (isAlphanum_of_digit? (digitBelow?_eq_some_iff.1 h).1)
    have hlt : c.toNat < 123 := by omega
    exact of_toNat_lt (P := fun c => ∀ d ∈ digitBelow? 16 c, d < 16 ∧ c.toLower = d.digitChar)
      hfirst hlt d h
  · rintro ⟨hd, hc⟩
    have hvalue := (digitBelow?_digitChar (Nat.le_refl 16) hd).1
    rwa [digitBelow?, ← hc, digit?_toLower] at hvalue

/-- The number that digits spell is their value in the base; `Nat.ofDigits` has the least
significant of them first. -/
theorem ofDigits_eq_ofDigits_reverse (base : Nat) (ds : List Nat) :
    ofDigits base ds = Nat.ofDigits base ds.reverse := by
  rw [Nat.ofDigits_eq_foldr, List.foldr_reverse, ofDigits]
  simp only [Nat.cast_id, Nat.mul_comm base, Nat.add_comm]

/-- In hexadecimal, the digits of a number are the decimal digits and the letters up to `f`, of
either case. -/
theorem spells_sixteen_iff {cs : List Char} {n : Nat} : Spells 16 cs n ↔ HexDigits cs n := by
  have hdigits (ds : List Nat) :
      List.Forall₂ (fun c d => digitBelow? 16 c = some d) cs ds ↔
        (∀ d ∈ ds, d < 16) ∧ cs.map Char.toLower = ds.map Nat.digitChar := by
    simp only [digitBelow?_sixteen_eq_some_iff]
    induction cs generalizing ds with
    | nil => cases ds <;> simp
    | cons c cs ih =>
      cases ds with
      | nil => simp
      | cons d ds => simp [ih, and_assoc, and_left_comm]
  constructor
  · rintro ⟨hne, ds, hds, hn⟩
    obtain ⟨hlt, hsame⟩ := (hdigits ds).1 hds
    exact ⟨hne, ds, hlt, hsame, (ofDigits_eq_ofDigits_reverse 16 ds).symm.trans hn⟩
  · rintro ⟨hne, ds, hlt, hsame, hn⟩
    exact ⟨hne, ds, (hdigits ds).2 ⟨hlt, hsame⟩, (ofDigits_eq_ofDigits_reverse 16 ds).trans hn⟩

/-! ## Zeros -/

/-- Digits in writing are those of the number that they make up, after zeros. -/
theorem exists_map_digitChar_eq {base : Nat} (hbase : 1 < base) {ds : List Nat} (hne : ds ≠ [])
    (hds : ∀ d ∈ ds, d < base) : ∃ zeros, ds.map Nat.digitChar =
      List.replicate zeros '0' ++ Nat.toDigits base (ofDigits base ds) := by
  induction ds using List.reverseRecOn with
  | nil => exact absurd rfl hne
  | append_singleton ds d ih =>
    obtain ⟨hds, hd⟩ := List.forall_mem_append.1 hds
    have hd : d < base := hd d (by simp)
    have hlast : [d.digitChar] = Nat.toDigits base d := (Nat.toDigits_of_lt_base hd).symm
    rw [List.map_append, List.map_singleton, ofDigits_concat, hlast]
    by_cases hnil : ds = []
    · exact ⟨0, by simp [hnil]⟩
    · obtain ⟨zeros, hzeros⟩ := ih hnil hds
      rw [hzeros]
      rcases Nat.eq_zero_or_pos (ofDigits base ds) with hzero | hpos
      · -- All digits before the last one are zeros.
        refine ⟨zeros + 1, ?_⟩
        rw [hzero, Nat.toDigits_zero, Nat.zero_mul, Nat.zero_add, List.replicate_succ']
      · refine ⟨zeros, ?_⟩
        rw [List.append_assoc, Nat.toDigits_append_toDigits hbase hpos hd, Nat.mul_comm]

/-- Zeros before the digits of a number do not change it. -/
theorem Spells.zeros_append {base n : Nat} {cs : List Char} (hbase : 0 < base)
    (h : Spells base cs n) (zeros : Nat) : Spells base (List.replicate zeros '0' ++ cs) n := by
  induction zeros with
  | zero => exact h
  | succ zeros ih =>
    obtain ⟨ds, hds, hn⟩ := ih.digits
    have hzero : digitBelow? base '0' = some 0 := digitBelow?_eq_some_iff.2 ⟨rfl, hbase⟩
    exact ⟨List.cons_ne_nil _ _, 0 :: ds, .cons hzero hds, by simpa [ofDigits] using hn⟩

/-- Capitals and small letters spell the same numbers. -/
theorem spells_map_toLower_iff {base n : Nat} {cs : List Char} :
    Spells base (cs.map Char.toLower) n ↔ Spells base cs n := by
  have hsame (ds : List Nat) :
      List.Forall₂ (fun c d => digitBelow? base c = some d) (cs.map Char.toLower) ds ↔
        List.Forall₂ (fun c d => digitBelow? base c = some d) cs ds := by
    simp only [List.forall₂_map_left_iff, digitBelow?, digit?_toLower]
  constructor
  · rintro ⟨hne, ds, hds, hn⟩
    exact ⟨by simpa using hne, ds, (hsame ds).1 hds, hn⟩
  · rintro ⟨hne, ds, hds, hn⟩
    exact ⟨by simpa using hne, ds, (hsame ds).2 hds, hn⟩

/-- The digits of a number are those that it is written in, up to the case of letters and to zeros
before them. -/
theorem hexDigits_iff_toDigits {cs : List Char} {n : Nat} :
    HexDigits cs n ↔
      ∃ zeros, cs.map Char.toLower = List.replicate zeros '0' ++ Nat.toDigits 16 n := by
  constructor
  · rintro ⟨hne, ds, hlt, hsame, rfl⟩
    have hds : ds ≠ [] := by
      rintro rfl
      exact hne (List.map_eq_nil_iff.1 hsame)
    rw [hsame, ← ofDigits_eq_ofDigits_reverse]
    exact exists_map_digitChar_eq (by decide) hds hlt
  · rintro ⟨zeros, hsame⟩
    have hspells := (spells_toDigits (by decide) (Nat.le_refl 16) n).zeros_append (by decide) zeros
    rw [← hsame, spells_map_toLower_iff] at hspells
    exact spells_sixteen_iff.1 hspells

/-! ## Signs and blanks -/

section
variable {cs digits : List Char} {n : Nat}

/-- A text is what is left of it without the hexadecimal mark, and that mark if it is there. -/
theorem exists_eq_append_dropHexMark (cs : List Char) : ∃ mark, cs = mark ++ dropHexMark cs ∧
    (mark = [] ∨ mark = ['0', 'x'] ∨ mark = ['0', 'X']) := by
  unfold dropHexMark
  split
  · exact ⟨['0', 'x'], rfl, .inr (.inl rfl)⟩
  · exact ⟨['0', 'X'], rfl, .inr (.inr rfl)⟩
  · exact ⟨[], rfl, .inl rfl⟩

/-- Digits begin with no hexadecimal mark, whose second character is none of them. -/
theorem Spells.dropHexMark_eq_self (h : Spells 16 cs n) : dropHexMark cs = cs := by
  unfold dropHexMark
  split
  · exact absurd (by decide) (h.digitBelow?_ne_none 'x' (by simp))
  · exact absurd (by decide) (h.digitBelow?_ne_none 'X' (by simp))
  · rfl

/-- Every text is what is left without blanks, sign and mark, and these around it. -/
theorem wraps_dropHexMark (cs : List Char) : Wraps cs (dropHexMark (dropPlus (trim cs))) := by
  obtain ⟨before, after, hcs, hblank⟩ := exists_eq_append_trim_append cs
  obtain ⟨sign, htrim, hsign⟩ := exists_eq_append_dropPlus (trim cs)
  obtain ⟨mark, hplain, hmark⟩ := exists_eq_append_dropHexMark (dropPlus (trim cs))
  have hwraps := @Wraps.around _ _ _ (dropHexMark (dropPlus (trim cs))) _ hblank hsign hmark
  rwa [← hplain, ← htrim, ← hcs] at hwraps

/-- A hexadecimal mark is made of a letter and a decimal digit. -/
theorem isAlphanum_of_mem_mark {mark : List Char}
    (h : mark = [] ∨ mark = ['0', 'x'] ∨ mark = ['0', 'X']) : ∀ c ∈ mark, c.isAlphanum := by
  have hall : mark.all Char.isAlphanum := by rcases h with rfl | rfl | rfl <;> rfl
  exact List.all_eq_true.1 hall

/-- Whatever is around the digits of a number is taken off, and nothing else. -/
theorem Wraps.dropHexMark_eq (h : Wraps cs digits) (hdigits : Spells 16 digits n) :
    dropHexMark (dropPlus (trim cs)) = digits := by
  cases h with
  | @around before sign mark _ after blank signed marked =>
    have hmarked : ∀ c ∈ mark ++ digits, c.isAlphanum :=
      List.forall_mem_append.2 ⟨isAlphanum_of_mem_mark marked, hdigits.isAlphanum⟩
    have hvisible : ∀ c ∈ sign ++ (mark ++ digits), isBlank c = false := by
      have hsign : sign.all fun c => !isBlank c := by rcases signed with rfl | rfl <;> rfl
      exact List.forall_mem_append.2 ⟨by simpa using hsign,
        fun c hc => isBlank_of_isAlphanum (hmarked c hc)⟩
    rw [trim_append_append blank, trim_eq_self hvisible, dropPlus_append signed hmarked]
    rcases marked with rfl | rfl | rfl
    · exact hdigits.dropHexMark_eq_self
    · rfl
    · rfl

/-- A text spells a number exactly if it is digits without blanks, sign and mark. -/
theorem spellsHexadecimal_iff :
    SpellsHexadecimal cs n ↔ Spells 16 (dropHexMark (dropPlus (trim cs))) n := by
  constructor
  · rintro ⟨digits, hwraps, hdigits⟩
    have hspells := spells_sixteen_iff.2 hdigits
    rwa [hwraps.dropHexMark_eq hspells]
  · intro h
    exact ⟨_, wraps_dropHexMark cs, spells_sixteen_iff.1 h⟩

/-- A spelled number consists of blanks, a plus sign, letters and decimal digits. -/
theorem SpellsHexadecimal.isBlank_or (h : SpellsHexadecimal cs n) :
    ∀ c ∈ cs, isBlank c ∨ c = '+' ∨ c.isAlphanum := by
  obtain ⟨digits, hwraps, hdigits⟩ := h
  cases hwraps with
  | @around before sign mark _ after blank signed marked =>
    intro c hc
    simp only [List.mem_append] at hc blank
    rcases hc with (hbefore | hsign | hmark | hdigit) | hafter
    · exact .inl (blank c (.inl hbefore))
    · rcases signed with rfl | rfl
      · cases hsign
      · exact .inr (.inl (List.mem_singleton.1 hsign))
    · exact .inr (.inr (isAlphanum_of_mem_mark marked c hmark))
    · exact .inr (.inr ((spells_sixteen_iff.2 hdigits).isAlphanum c hdigit))
    · exact .inl (blank c (.inr hafter))

/-- A text spells one number only. -/
theorem SpellsHexadecimal.unique {m : Nat} (h : SpellsHexadecimal cs m)
    (h' : SpellsHexadecimal cs n) : m = n :=
  (spellsHexadecimal_iff.1 h).unique (spellsHexadecimal_iff.1 h')

/-- What is read are the spellings of 64-bit numbers. -/
theorem hexadecimal?_eq_some_iff :
    hexadecimal? cs = some n ↔ SpellsHexadecimal cs n ∧ n < 2 ^ 64 := by
  have hlimit : limit 64 = 2 ^ 64 := by decide
  rw [hexadecimal?, ofText?_eq_some_iff, spellsHexadecimal_iff, hlimit]

/-- Digits alone are read as the number that they spell. -/
theorem hexadecimal?_of_spells (h : Spells 16 cs n) (hn : n < limit 64) :
    hexadecimal? cs = some n := by
  have hwraps : Wraps cs cs := by
    simpa using @Wraps.around [] [] [] cs [] (by simp) (.inl rfl) (.inl rfl)
  exact hexadecimal?_eq_some_iff.2 ⟨⟨cs, hwraps, spells_sixteen_iff.1 h⟩, hn⟩

end

/-! ## Ranges -/

/-- A value that spells a number is in a range if the number is, and takes no more than 64 bits. -/
theorem SpellsHexadecimal.accepts_range_iff {value : String} {n : Nat}
    (h : SpellsHexadecimal value.toList n) (low high : Nat) :
    (Alternative.range low high).accepts value ↔ low ≤ n ∧ n ≤ high ∧ n < 2 ^ 64 := by
  simp only [Alternative.accepts, Option.any_eq_true, hexadecimal?_eq_some_iff, Bool.and_eq_true,
    decide_eq_true_eq]
  constructor
  · rintro ⟨m, ⟨hm, hlt⟩, hlow, hhigh⟩
    obtain rfl := h.unique hm
    exact ⟨hlow, hhigh, hlt⟩
  · rintro ⟨hlow, hhigh, hlt⟩
    exact ⟨n, ⟨h, hlt⟩, hlow, hhigh⟩

/-- **A number is read from every spelling.** A text is read as a number exactly if it spells the
number, and the number takes no more than 64 bits. For such a number, these are the texts whose
digits are, in small letters, those that the number is written in, after zeros. What a range says of
a value depends on the number only, and so it says the same of all spellings. -/
theorem hexadecimal_in_every_spelling (value : String) (n : Nat) :
    (hexadecimal? value.toList = some n ↔ SpellsHexadecimal value.toList n ∧ n < 2 ^ 64) ∧
      (n < 2 ^ 64 → (hexadecimal? value.toList = some n ↔
        ∃ digits zeros, Wraps value.toList digits ∧
          digits.map Char.toLower = List.replicate zeros '0' ++ Nat.toDigits 16 n)) ∧
      (SpellsHexadecimal value.toList n → ∀ low high,
        ((Alternative.range low high).accepts value ↔ low ≤ n ∧ n ≤ high ∧ n < 2 ^ 64) ∧
        ∀ other : String, SpellsHexadecimal other.toList n →
          (Alternative.range low high).accepts other =
            (Alternative.range low high).accepts value) := by
  refine ⟨hexadecimal?_eq_some_iff, fun hn => ?_, fun hvalue low high => ?_⟩
  · rw [hexadecimal?_eq_some_iff, and_iff_left hn, SpellsHexadecimal]
    simp only [hexDigits_iff_toDigits, exists_and_left]
  · refine ⟨hvalue.accepts_range_iff low high, fun other hother => ?_⟩
    rw [Bool.eq_iff_iff, hvalue.accepts_range_iff, hother.accepts_range_iff]

/-- Twenty digits, most of them zeros, with blanks, a sign and a mark around them, and the same
number in two small letters. -/
theorem hexadecimal_in_every_spelling_padded :
    255 < 2 ^ 64 ∧ SpellsHexadecimal "\u00a0+0X000000000000000000fF\t".toList 255 ∧
      hexadecimal? "\u00a0+0X000000000000000000fF\t".toList = some 255 ∧
      (Alternative.range 16 256).accepts "\u00a0+0X000000000000000000fF\t" ∧
      SpellsHexadecimal "ff".toList 255 ∧ (Alternative.range 16 256).accepts "ff" := by
  have hn : 255 < 2 ^ 64 := by decide
  have htext : "\u00a0+0X000000000000000000fF\t".toList =
      ['\u00a0'] ++ (['+'] ++ (['0', 'X'] ++ "000000000000000000fF".toList)) ++ ['\t'] := by
    decide +kernel
  have hblank : (['\u00a0'] ++ ['\t']).all isBlank := by decide
  have hwraps : Wraps "\u00a0+0X000000000000000000fF\t".toList "000000000000000000fF".toList := by
    rw [htext]
    exact .around (List.all_eq_true.1 hblank) (.inr rfl) (.inr (.inr rfl))
  have hdigits : "000000000000000000fF".toList.map Char.toLower =
      List.replicate 18 '0' ++ Nat.toDigits 16 255 := by decide +kernel
  have hspells : SpellsHexadecimal "\u00a0+0X000000000000000000fF\t".toList 255 :=
    ⟨_, hwraps, hexDigits_iff_toDigits.2 ⟨18, hdigits⟩⟩
  have hother : SpellsHexadecimal "ff".toList 255 :=
    ((hexadecimal_in_every_spelling "ff" 255).1.1 (by decide +kernel)).1
  obtain ⟨-, hread, hranges⟩ :=
    hexadecimal_in_every_spelling "\u00a0+0X000000000000000000fF\t" 255
  obtain ⟨haccepts, hsame⟩ := hranges hspells 16 256
  have hwithin := haccepts.2 ⟨by decide, by decide, hn⟩
  exact ⟨hn, hspells, (hread hn).2 ⟨_, 18, hwraps, hdigits⟩, hwithin, hother,
    (hsame "ff" hother).trans hwithin⟩

end Numeral

end OsDetection
