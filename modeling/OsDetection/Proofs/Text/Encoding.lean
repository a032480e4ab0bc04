import Mathlib.Algebra.GroupWithZero.Nat

/-!
# The order of encoded texts

A text is kept as the bytes of its encoding in UTF-8, and comparing these bytes is comparing the
code points (`utf8_lt_utf8_iff`). A code point is encoded as a first byte, which tells how many
follow, and the digits in base 64 that are left (`utf8EncodeChar_eq`). The greater code point has
the greater first byte, or as many digits after an equal one (`leading_lt_or_eq`), and digits are
compared from the left (`digitBytes_append_lt`); so whatever comes after them, the bytes of the
lesser code point come first (`utf8EncodeChar_append_lt`).
-/

namespace OsDetection.Text

/-- The bytes of a text in UTF-8. -/
def utf8 (text : String) : List UInt8 := text.toUTF8.data.toList

/-- The bytes of a text are those of its characters. -/
theorem utf8_eq_flatMap (text : String) :
    utf8 text = text.toList.flatMap String.utf8EncodeChar := by
  rw [utf8, String.toUTF8_eq_toByteArray, ← String.utf8Encode_toList, List.utf8Encode,
    List.toList_data_toByteArray]

/-! ## Code points -/

/-- How many bytes of a code point come after the first. -/
def following (n : Nat) : Nat :=
  if n ≤ 0x7f then 0 else if n ≤ 0x7ff then 1 else if n ≤ 0xffff then 2 else 3

/-- The first byte of a code point. -/
def leading (n : Nat) : Nat :=
  if n ≤ 0x7f then n
  else if n ≤ 0x7ff then n / 64 + 0xc0
  else if n ≤ 0xffff then n / 4096 + 0xe0
  else n / 262144 + 0xf0

/-- The last digits of a number in base 64, the most significant first, as the bytes that follow. -/
def digitBytes : Nat → Nat → List UInt8
  | 0, _ => []
  | k + 1, n => UInt8.ofNat (n / 64 ^ k % 64 + 0x80) :: digitBytes k n

theorem toNat_lt (c : Char) : c.toNat < 0x110000 := by
  rcases c.valid with h | h
  · exact Nat.lt_trans h (by decide)
  · exact h.2

/-- A character is encoded as a first byte and the digits that are left. -/
theorem utf8EncodeChar_eq (c : Char) :
    String.utf8EncodeChar c =
      UInt8.ofNat (leading c.toNat) :: digitBytes (following c.toNat) c.toNat := by
  have hvalid := toNat_lt c
  simp only [String.utf8EncodeChar, Char.toNat_val, leading, following]
  generalize c.toNat = n at hvalid
  split
  · rfl
  · split
    · have hlead : n / 64 % 32 = n / 64 := by omega
      simp [digitBytes, hlead]
    · split
      · have hlead : n / 4096 % 16 = n / 4096 := by omega
        simp [digitBytes, hlead]
      · have hlead : n / 262144 % 8 = n / 262144 := by omega
        simp [digitBytes, hlead]

theorem leading_lt {n : Nat} (h : n < 0x110000) : leading n < 256 := by
  unfold leading
  repeat' split
  all_goals omega

/-- The greater code point has the greater first byte, or the same and as many digits left. -/
theorem leading_lt_or_eq {m n : Nat} (h : m < n) (hn : n < 0x110000) :
    leading m < leading n ∨
      leading m = leading n ∧ following m = following n ∧
        m / 64 ^ following m = n / 64 ^ following m := by
  unfold leading following
  repeat' split
  all_goals omega

/-- Bytes are compared from the left. -/
theorem ofNat_cons_lt_ofNat_cons_iff {a b : Nat} (ha : a < 256) (hb : b < 256)
    {as bs : List UInt8} :
    UInt8.ofNat a :: as < UInt8.ofNat b :: bs ↔ a < b ∨ a = b ∧ as < bs := by
  rw [List.cons_lt_cons_iff, UInt8.lt_iff_toNat_lt, ← UInt8.toNat_inj, UInt8.toNat_ofNat',
    UInt8.toNat_ofNat', Nat.mod_eq_of_lt ha, Nat.mod_eq_of_lt hb]

/-- Of two numbers that agree before their last digits, these tell the lesser. -/
theorem digitBytes_append_lt {k m n : Nat} (h : m < n) (hk : m / 64 ^ k = n / 64 ^ k)
    (as bs : List UInt8) : digitBytes k m ++ as < digitBytes k n ++ bs := by
  induction k with
  | zero =>
    rw [Nat.pow_zero, Nat.div_one, Nat.div_one] at hk
    omega
  | succ k ih =>
    have hle : m / 64 ^ k ≤ n / 64 ^ k := Nat.div_le_div_right (Nat.le_of_lt h)
    rw [Nat.pow_succ, ← Nat.div_div_eq_div_mul, ← Nat.div_div_eq_div_mul] at hk
    rw [digitBytes, digitBytes, List.cons_append, List.cons_append,
      ofNat_cons_lt_ofNat_cons_iff (by omega) (by omega)]
    rcases Nat.lt_or_eq_of_le hle with hlt | heq
    · exact .inl (by omega)
    · exact .inr ⟨by rw [heq], ih heq⟩

/-- The bytes of the lesser character come first, whatever follows. -/
theorem utf8EncodeChar_append_lt {c d : Char} (h : c < d) (as bs : List UInt8) :
    String.utf8EncodeChar c ++ as < String.utf8EncodeChar d ++ bs := by
  have hlt : c.toNat < d.toNat := h
  rw [utf8EncodeChar_eq, utf8EncodeChar_eq, List.cons_append, List.cons_append,
    ofNat_cons_lt_ofNat_cons_iff (leading_lt (toNat_lt c)) (leading_lt (toNat_lt d))]
  rcases leading_lt_or_eq hlt (toNat_lt d) with hlead | ⟨hlead, hfollowing, hrest⟩
  · exact .inl hlead
  · rw [← hfollowing]
    exact .inr ⟨hlead, digitBytes_append_lt hlt hrest as bs⟩

/-! ## Texts -/

/-- The lesser text has the lesser bytes. -/
theorem flatMap_utf8EncodeChar_lt {cs ds : List Char} (h : cs < ds) :
    cs.flatMap String.utf8EncodeChar < ds.flatMap String.utf8EncodeChar := by
  induction h with
  | nil =>
    rw [List.flatMap_cons, utf8EncodeChar_eq]
    exact .nil
  | rel hlt => exact utf8EncodeChar_append_lt hlt _ _
  | cons _ ih => exact List.append_left_lt ih

/-- **Texts are compared by their bytes.** The order of code points is that of the encoding. -/
theorem utf8_lt_utf8_iff {s t : String} : utf8 s < utf8 t ↔ s < t := by
  have mono {s t : String} (h : s < t) : utf8 s < utf8 t := by
    rw [utf8_eq_flatMap, utf8_eq_flatMap]
    exact flatMap_utf8EncodeChar_lt h
  refine ⟨fun h => ?_, mono⟩
  by_cases hge : s ≤ t
  · refine String.not_le.1 fun hle => ?_
    obtain rfl := String.le_antisymm hge hle
    exact List.lt_irrefl _ h
  · exact absurd (mono (String.not_le.1 hge)) (List.lt_asymm h)

end OsDetection.Text
