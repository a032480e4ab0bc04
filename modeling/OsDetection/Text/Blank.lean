/-!
# Blank characters

Blank characters are those with the Unicode property `White_Space`. They end lines, surround
values and are ignored inside a query. `trimStart`, `trimEnd` and `trim` cut them off the ends of
a text; `trimEnd_append` and `trimEnd_eq_nil_iff` say what the end of a text contributes, and
`exists_eq_append_trim_append` and `trim_append_append` what either end does.
-/

namespace OsDetection.Text

/-- Whether a character has the Unicode property `White_Space`. -/
def isBlank (c : Char) : Bool :=
  let n := c.toNat
  (9 ≤ n && n ≤ 13) || n == 0x20 || n == 0x85 || n == 0xA0 || n == 0x1680 ||
    (0x2000 ≤ n && n ≤ 0x200A) || n == 0x2028 || n == 0x2029 || n == 0x202F || n == 0x205F ||
    n == 0x3000

/-- The codes of capitals, small letters and digits. -/
theorem toNat_of_isAlphanum {c : Char} (h : c.isAlphanum) :
    (65 ≤ c.toNat ∧ c.toNat ≤ 90 ∨ 97 ≤ c.toNat ∧ c.toNat ≤ 122) ∨
      48 ≤ c.toNat ∧ c.toNat ≤ 57 := by
  have hcode : (decide (65 ≤ c.val ∧ c.val ≤ 90) ||
    (decide (97 ≤ c.val) && decide (c.val ≤ 122)) ||
    (decide (48 ≤ c.val) && decide (c.val ≤ 57))) = true := h
  simpa [UInt32.le_iff_toNat_le] using hcode

/-- Letters and digits are no blanks. -/
theorem isBlank_of_isAlphanum {c : Char} (h : c.isAlphanum) : isBlank c = false := by
  have hcode := toNat_of_isAlphanum h
  simp only [isBlank, Bool.or_eq_false_iff, Bool.and_eq_false_iff, decide_eq_false_iff_not,
    beq_eq_false_iff_ne]
  omega

/-- The text without the blanks it begins with. -/
def trimStart (cs : List Char) : List Char :=
  cs.dropWhile isBlank

/-- The text without the blanks it ends with. -/
def trimEnd (cs : List Char) : List Char :=
  (cs.reverse.dropWhile isBlank).reverse

/-- The text without the blanks at either end. -/
def trim (cs : List Char) : List Char :=
  trimEnd (trimStart cs)

@[simp] theorem trimEnd_nil : trimEnd [] = [] := rfl

@[simp] theorem trim_nil : trim [] = [] := rfl

/-- Blanks added at the end of a text are cut off again. -/
theorem trimEnd_append {cs blanks : List Char} (h : ∀ c ∈ blanks, isBlank c) :
    trimEnd (cs ++ blanks) = trimEnd cs := by
  simp only [trimEnd, List.reverse_append]
  rw [List.dropWhile_append_of_pos (by simpa using h)]

/-- A text is what is left of it, and blanks. -/
theorem exists_eq_trimEnd_append (cs : List Char) :
    ∃ blanks, cs = trimEnd cs ++ blanks ∧ ∀ c ∈ blanks, isBlank c := by
  refine ⟨(cs.reverse.takeWhile isBlank).reverse, ?_, fun c hc => ?_⟩
  · rw [trimEnd, ← List.reverse_append, List.takeWhile_append_dropWhile, List.reverse_reverse]
  · exact List.all_eq_true.1 List.all_takeWhile c (List.mem_reverse.1 hc)

/-- A text that ends in a visible character is left as it is. -/
theorem trimEnd_concat {cs : List Char} {c : Char} (h : isBlank c = false) :
    trimEnd (cs ++ [c]) = cs ++ [c] := by
  simp [trimEnd, h]

/-- The visible character that a text begins with is left. -/
theorem trimEnd_cons {c : Char} (h : isBlank c = false) (cs : List Char) :
    trimEnd (c :: cs) = c :: trimEnd cs := by
  simp only [trimEnd, List.reverse_cons, List.dropWhile_append]
  split
  · next hnil =>
    rw [List.isEmpty_iff] at hnil
    simp [h, hnil]
  · simp

/-- Only blanks trim to nothing. -/
theorem trimEnd_eq_nil_iff {cs : List Char} : trimEnd cs = [] ↔ ∀ c ∈ cs, isBlank c := by
  have drop_nil (ds : List Char) : ds.dropWhile isBlank = [] ↔ ∀ c ∈ ds, isBlank c := by
    induction ds with
    | nil => simp
    | cons d ds ih => by_cases h : isBlank d <;> simp [h, ih]
  simp [trimEnd, drop_nil]

/-- A text is what is left of it, with blanks before and after. -/
theorem exists_eq_append_trim_append (cs : List Char) :
    ∃ before after, cs = before ++ trim cs ++ after ∧ ∀ c ∈ before ++ after, isBlank c := by
  obtain ⟨after, hrest, hafter⟩ := exists_eq_trimEnd_append (trimStart cs)
  refine ⟨cs.takeWhile isBlank, after, ?_, ?_⟩
  · rw [trim, List.append_assoc, ← hrest, trimStart, List.takeWhile_append_dropWhile]
  · exact List.forall_mem_append.2 ⟨List.all_eq_true.1 List.all_takeWhile, hafter⟩

/-- Blanks added on either side of a text are cut off again. -/
theorem trim_append_append {before after : List Char} (h : ∀ c ∈ before ++ after, isBlank c)
    (cs : List Char) : trim (before ++ cs ++ after) = trim cs := by
  obtain ⟨hbefore, hafter⟩ := List.forall_mem_append.1 h
  rw [List.append_assoc, trim, trimStart, List.dropWhile_append_of_pos hbefore,
    List.dropWhile_append, trim, trimStart]
  split
  · next hnil =>
    -- Nothing is visible before the last blanks, so that these are cut off as well.
    rw [List.isEmpty_iff.1 hnil, trimEnd_nil, trimEnd_eq_nil_iff]
    exact fun c hc => hafter c ((List.dropWhile_sublist isBlank).mem hc)
  · exact trimEnd_append hafter

/-- A text without blanks is left as it is. -/
theorem trim_eq_self {cs : List Char} (h : ∀ c ∈ cs, isBlank c = false) : trim cs = cs := by
  have drop_eq_self {ds : List Char} (h : ∀ d ∈ ds, isBlank d = false) :
      ds.dropWhile isBlank = ds := by
    cases ds with
    | nil => rfl
    | cons d ds => rw [List.dropWhile_cons_of_neg (by simp [h d])]
  rw [trim, trimStart, drop_eq_self h, trimEnd,
    drop_eq_self fun c hc => h c (List.mem_reverse.1 hc), List.reverse_reverse]

end OsDetection.Text
