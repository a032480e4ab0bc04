import OsDetection.Numeral.Digits

/-!
# Written numbers

A number is written in digits, and its digits spell it: reading them gives the number back, in
every base with a digit for each number below it (`ofText?_toDigits`), and so does reading a decimal
number (`decimal?_toDigits`).
-/

namespace OsDetection.Numeral

open OsDetection.Text

/-- A number below the base is the value of its digit, which is a letter or a decimal digit. -/
theorem digitBelow?_digitChar {base d : Nat} (hdigits : base ≤ 16) (hd : d < base) :
    digitBelow? base d.digitChar = some d ∧ d.digitChar.isAlphanum := by
  have hdigit : ∀ d : Fin 16, digit? (Nat.digitChar d) = some d.val ∧
      (Nat.digitChar d).isAlphanum := by decide
  obtain ⟨hvalue, halphanum⟩ := hdigit ⟨d, Nat.lt_of_lt_of_le hd hdigits⟩
  exact ⟨digitBelow?_eq_some_iff.2 ⟨hvalue, hd⟩, halphanum⟩

section
variable {base : Nat} (hbase : 1 < base) (hdigits : base ≤ 16)
include hbase hdigits

/-- The digits of a number, from the last one on: their values make up the number, and there is
nothing else among them. -/
theorem toDigits_spells (n : Nat) :
    (∃ ds, (Nat.toDigits base n).mapM (digitBelow? base) = some ds ∧ ofDigits base ds = n) ∧
      ∀ c ∈ Nat.toDigits base n, c.isAlphanum := by
  induction n using Nat.strongRecOn with
  | ind n ih =>
    rw [Nat.toDigits_eq_if hbase]
    split
    · next hn =>
      obtain ⟨hvalue, halphanum⟩ := digitBelow?_digitChar hdigits hn
      exact ⟨⟨[n], by simp [hvalue], by simp [ofDigits]⟩, by simpa using halphanum⟩
    · next hn =>
      have hlast : n % base < base := Nat.mod_lt n (by omega)
      obtain ⟨hvalue, halphanum⟩ := digitBelow?_digitChar hdigits hlast
      obtain ⟨⟨ds, hds, hfirst⟩, hrest⟩ := ih (n / base) (Nat.div_lt_self (by omega) hbase)
      refine ⟨⟨ds ++ [n % base], ?_, ?_⟩, fun c hc => ?_⟩
      · rw [List.mapM_append, hds]
        simp [hvalue]
      · rw [ofDigits_concat, hfirst, Nat.div_add_mod']
      · rcases List.mem_append.1 hc with hc | hc
        · exact hrest c hc
        · rwa [List.mem_singleton.1 hc]

/-- Reading the digits of a number gives the number back. -/
theorem ofText?_toDigits {limit n : Nat} (hn : n < limit) :
    ofText? base limit (Nat.toDigits base n) = some n := by
  obtain ⟨ds, hds, hvalue⟩ := (toDigits_spells hbase hdigits n).1
  rw [ofText?, if_neg Nat.toDigits_ne_nil, hds, Option.map_some, hvalue,
    Option.filter_some_pos (by simpa using hn)]

end

/-- A text of letters and digits begins with no sign. -/
theorem dropPlus_eq_self {cs : List Char} (h : ∀ c ∈ cs, c.isAlphanum) : dropPlus cs = cs := by
  unfold dropPlus
  split
  · exact absurd (h '+' (by simp)) (by decide)
  · rfl

/-- Reading a number that is written in decimal gives it back. -/
theorem decimal?_toDigits {limit n : Nat} (hn : n < limit) :
    decimal? limit (Nat.toDigits 10 n) = some n := by
  rw [decimal?, dropPlus_eq_self (toDigits_spells (by decide) (by decide) n).2]
  exact ofText?_toDigits (by decide) (by decide) hn

end OsDetection.Numeral
