import Mathlib.Data.List.Forall2
import OsDetection.Proofs.Numeral.Written

/-!
# Texts that spell a number

A text spells a number in a base if it is not empty and its characters are digits of the base that
make up the number (`Spells`). Such texts are what is read between the signs that a number may
have. In decimal a plus sign may stand before the digits, which are those from `0` to `9`
(`decimal?_eq_some_iff`).
-/

namespace OsDetection.Numeral

open OsDetection.Text

/-- Taking every element of a list to a value succeeds exactly if each has one. -/
theorem mapM_eq_some_iff {α β : Type} {f : α → Option β} {as : List α} {bs : List β} :
    as.mapM f = some bs ↔ List.Forall₂ (fun a b => f a = some b) as bs := by
  induction as generalizing bs with
  | nil => simp [eq_comm]
  | cons a as ih =>
    rw [List.mapM_cons, List.forall₂_cons_left_iff]
    simp only [Option.bind_eq_bind, Option.bind_eq_some_iff, ih, Option.pure_def, Option.some.injEq]
    constructor
    · rintro ⟨b, hb, bs, hbs, rfl⟩
      exact ⟨b, bs, hb, hbs, rfl⟩
    · rintro ⟨b, bs, hb, hbs, rfl⟩
      exact ⟨b, hb, bs, hbs, rfl⟩

/-- A text that is a number in the digits of a base, the most significant first. -/
structure Spells (base : Nat) (cs : List Char) (n : Nat) : Prop where
  visible : cs ≠ []
  digits : ∃ ds, List.Forall₂ (fun c d => digitBelow? base c = some d) cs ds ∧ ofDigits base ds = n

/-- What is read in a base are the texts that spell a number below the limit. -/
theorem ofText?_eq_some_iff {base limit n : Nat} {cs : List Char} :
    ofText? base limit cs = some n ↔ Spells base cs n ∧ n < limit := by
  unfold ofText?
  split
  · next hnil =>
    constructor
    · intro h
      cases h
    · intro h
      exact absurd hnil h.1.visible
  · next hne =>
    simp only [Option.filter_eq_some_iff, Option.map_eq_some_iff, mapM_eq_some_iff,
      decide_eq_true_eq]
    constructor
    · rintro ⟨hdigits, hlt⟩
      exact ⟨⟨hne, hdigits⟩, hlt⟩
    · rintro ⟨hspells, hlt⟩
      exact ⟨hspells.digits, hlt⟩

/-! ## Digits -/

/-- A digit is a letter or a decimal digit. -/
theorem isAlphanum_of_digit? {c : Char} {d : Nat} (h : digit? c = some d) : c.isAlphanum := by
  have halphanum : c.isAlphanum = (decide ('A' ≤ c ∧ c ≤ 'Z') ||
      (decide ('a' ≤ c) && decide (c ≤ 'z')) || (decide ('0' ≤ c) && decide (c ≤ '9'))) := rfl
  rw [halphanum]
  unfold digit? at h
  split at h
  · next hc => simp [hc]
  · split at h
    · next hc => simp [hc]
    · split at h
      · next hc => simp [hc]
      · cases h

/-- The digits of the base ten are those from `0` to `9`, with the values that they have by their
place there. -/
theorem digitBelow?_ten_eq_some_iff {c : Char} {d : Nat} :
    digitBelow? 10 c = some d ↔ c.isDigit ∧ c.toNat - '0'.toNat = d := by
  have hdigit : c.isDigit = (decide ('0' ≤ c) && decide (c ≤ '9')) := rfl
  rw [digitBelow?_eq_some_iff, hdigit, Bool.and_eq_true, decide_eq_true_eq, decide_eq_true_eq]
  unfold digit?
  constructor
  · rintro ⟨h, hd⟩
    split at h
    · next hc => exact ⟨hc, Option.some.inj h⟩
    · split at h
      · cases h
        omega
      · split at h
        · cases h
          omega
        · cases h
  · rintro ⟨hc, rfl⟩
    have hle : c.toNat ≤ '9'.toNat := UInt32.le_iff_toNat_le.1 (Char.le_def.1 hc.2)
    have hnine : '9'.toNat = '0'.toNat + 9 := rfl
    rw [if_pos hc]
    exact ⟨rfl, by omega⟩

namespace Spells

variable {base n : Nat} {cs : List Char}

/-- A spelled number consists of letters and decimal digits. -/
theorem isAlphanum (h : Spells base cs n) : ∀ c ∈ cs, c.isAlphanum := by
  obtain ⟨ds, hds, -⟩ := h.digits
  clear h
  induction hds with
  | nil => simp
  | cons hdigit _ ih =>
    exact List.forall_mem_cons.2 ⟨isAlphanum_of_digit? (digitBelow?_eq_some_iff.1 hdigit).1, ih⟩

/-- Its digits lie below the base. -/
theorem digitBelow?_ne_none (h : Spells base cs n) : ∀ c ∈ cs, digitBelow? base c ≠ none := by
  obtain ⟨ds, hds, -⟩ := h.digits
  clear h
  induction hds with
  | nil => simp
  | cons hdigit _ ih => exact List.forall_mem_cons.2 ⟨by simp [hdigit], ih⟩

/-- A text spells one number only. -/
theorem unique {m : Nat} (h : Spells base cs m) (h' : Spells base cs n) : m = n := by
  obtain ⟨ds, hds, rfl⟩ := h.digits
  obtain ⟨ds', hds', rfl⟩ := h'.digits
  rw [← mapM_eq_some_iff] at hds hds'
  rw [hds] at hds'
  rw [Option.some.inj hds']

end Spells

/-- A number is spelled by the digits that it is written in. -/
theorem spells_toDigits {base : Nat} (hbase : 1 < base) (hdigits : base ≤ 16) (n : Nat) :
    Spells base (Nat.toDigits base n) n :=
  (ofText?_eq_some_iff.1 (ofText?_toDigits hbase hdigits (Nat.lt_succ_self n))).1

/-! ## Signs -/

/-- A text is what is left of it without the plus sign, and that sign if it is there. -/
theorem exists_eq_append_dropPlus (cs : List Char) :
    ∃ sign, cs = sign ++ dropPlus cs ∧ (sign = [] ∨ sign = ['+']) := by
  unfold dropPlus
  split
  · exact ⟨['+'], rfl, .inr rfl⟩
  · exact ⟨[], rfl, .inl rfl⟩

/-- A plus sign before letters and digits is all that is dropped. -/
theorem dropPlus_append {sign cs : List Char} (hsign : sign = [] ∨ sign = ['+'])
    (hcs : ∀ c ∈ cs, c.isAlphanum) : dropPlus (sign ++ cs) = cs := by
  rcases hsign with rfl | rfl
  · exact dropPlus_eq_self hcs
  · rfl

/-! ## Decimal numbers -/

/-- In decimal, the digits of a number are those from `0` to `9`. -/
theorem spells_ten_iff {cs : List Char} {n : Nat} :
    Spells 10 cs n ↔ cs ≠ [] ∧ (∀ c ∈ cs, c.isDigit) ∧ Nat.ofDigitChars 10 cs 0 = n := by
  have hdigits (ds : List Nat) :
      List.Forall₂ (fun c d => digitBelow? 10 c = some d) cs ds ↔
        (∀ c ∈ cs, c.isDigit) ∧ cs.map (fun c => c.toNat - '0'.toNat) = ds := by
    simp only [digitBelow?_ten_eq_some_iff]
    rw [List.forall₂_and_left, ← List.forall₂_eq_eq_eq, List.forall₂_map_left_iff]
  have hvalue : ofDigits 10 (cs.map fun c => c.toNat - '0'.toNat) = Nat.ofDigitChars 10 cs 0 := by
    rw [ofDigits, List.foldl_map]
    simp only [Nat.ofDigitChars, Nat.mul_comm 10]
  constructor
  · rintro ⟨hne, ds, hds, hn⟩
    obtain ⟨hall, rfl⟩ := (hdigits ds).1 hds
    exact ⟨hne, hall, hvalue.symm.trans hn⟩
  · rintro ⟨hne, hall, hn⟩
    exact ⟨hne, _, (hdigits _).2 ⟨hall, rfl⟩, hvalue.trans hn⟩

/-- A decimal number is read from its digits, which a plus sign may come before. -/
theorem decimal?_eq_some_iff {limit n : Nat} {cs : List Char} :
    decimal? limit cs = some n ↔
      ∃ sign ds, cs = sign ++ ds ∧ (sign = [] ∨ sign = ['+']) ∧ Spells 10 ds n ∧ n < limit := by
  unfold decimal?
  constructor
  · intro h
    obtain ⟨sign, hcs, hsign⟩ := exists_eq_append_dropPlus cs
    exact ⟨sign, dropPlus cs, hcs, hsign, ofText?_eq_some_iff.1 h⟩
  · rintro ⟨sign, ds, rfl, hsign, hspells, hn⟩
    rw [dropPlus_append hsign hspells.isAlphanum]
    exact ofText?_eq_some_iff.2 ⟨hspells, hn⟩

end OsDetection.Numeral
