/-!
# Cutting a text at a separator

`split` cuts at every occurrence of a separator and always yields at least one piece. Joining the
pieces again gives the text back (`intercalate_split`), no piece holds the separator
(`not_mem_of_mem_split`), and joined pieces without it are cut apart again (`split_intercalate`).
`cut?` cuts at the first occurrence only. `lines` cuts at line feeds, a final line feed ending the
last line instead of beginning another; `shownLines` are the lines as a reader counts them, a
carriage return before the line feed being a part of the line's end.
-/

namespace OsDetection.Text

/-- The pieces of a text between the occurrences of a separator. -/
def split (sep : Char) (cs : List Char) : List (List Char) :=
  cs.foldr
    (fun c pieces =>
      match pieces with
      | [] => [[c]]
      | piece :: rest => if c = sep then [] :: piece :: rest else (c :: piece) :: rest)
    [[]]

@[simp] theorem split_nil (sep : Char) : split sep [] = [[]] := rfl

theorem split_ne_nil (sep : Char) (cs : List Char) : split sep cs ≠ [] := by
  cases cs with
  | nil => simp
  | cons c cs => simp only [split, List.foldr_cons]; split <;> (try split) <;> simp

/-- A separator ends the piece before it. -/
@[simp] theorem split_cons_sep (sep : Char) (cs : List Char) :
    split sep (sep :: cs) = [] :: split sep cs := by
  have := split_ne_nil sep cs
  simp only [split, List.foldr_cons] at this ⊢
  split <;> simp_all

/-- Any other character belongs to the first piece. -/
theorem split_cons {sep c : Char} (h : c ≠ sep) (cs : List Char) :
    ∃ piece rest, split sep cs = piece :: rest ∧ split sep (c :: cs) = (c :: piece) :: rest := by
  cases hs : split sep cs with
  | nil => exact absurd hs (split_ne_nil sep cs)
  | cons piece rest =>
    refine ⟨piece, rest, rfl, ?_⟩
    simp only [split, List.foldr_cons] at hs ⊢
    simp [hs, h]

/-- The pieces joined by the separator are the text. -/
theorem intercalate_split (sep : Char) (cs : List Char) :
    [sep].intercalate (split sep cs) = cs := by
  induction cs with
  | nil => rfl
  | cons c cs ih =>
    by_cases h : c = sep
    · subst h
      obtain ⟨piece, rest, hs⟩ := List.exists_cons_of_ne_nil (split_ne_nil c cs)
      rw [split_cons_sep, hs, List.intercalate_cons_cons, ← hs, ih]
      rfl
    · obtain ⟨piece, rest, hs, hc⟩ := split_cons h cs
      rw [hs] at ih
      rw [hc, ← ih]
      cases rest <;> simp [List.intercalate_cons_cons]

/-- No piece holds the separator. -/
theorem not_mem_of_mem_split {sep : Char} {cs piece : List Char} (h : piece ∈ split sep cs) :
    sep ∉ piece := by
  induction cs generalizing piece with
  | nil => simp_all
  | cons c cs ih =>
    by_cases hc : c = sep
    · subst hc
      simp only [split_cons_sep, List.mem_cons] at h
      rcases h with rfl | h
      · simp
      · exact ih h
    · obtain ⟨first, rest, hs, hcons⟩ := split_cons hc cs
      rw [hcons, List.mem_cons] at h
      rcases h with rfl | h
      · have : sep ∉ first := ih (by simp [hs])
        simp [this, Ne.symm hc]
      · exact ih (by simp [hs, h])

/-- A text without the separator is one piece. -/
theorem split_of_not_mem {sep : Char} {cs : List Char} (h : sep ∉ cs) : split sep cs = [cs] := by
  induction cs with
  | nil => rfl
  | cons c cs ih =>
    have hne : c ≠ sep := by rintro rfl; simp at h
    obtain ⟨piece, rest, hs, hc⟩ := split_cons hne cs
    rw [ih (by simp_all)] at hs
    simp_all

/-- The piece before a separator is cut off. -/
theorem split_append_sep {sep : Char} {piece : List Char} (h : sep ∉ piece) (cs : List Char) :
    split sep (piece ++ sep :: cs) = piece :: split sep cs := by
  induction piece with
  | nil => exact split_cons_sep sep cs
  | cons c piece ih =>
    obtain ⟨hc, hpiece⟩ : c ≠ sep ∧ sep ∉ piece := by simpa [eq_comm] using h
    obtain ⟨first, rest, hs, hcons⟩ := split_cons hc (piece ++ sep :: cs)
    rw [ih hpiece] at hs
    cases hs
    exact hcons

/-- Cutting pieces that were joined gives the pieces back. -/
theorem split_intercalate {sep : Char} {pieces : List (List Char)} (hne : pieces ≠ [])
    (h : ∀ piece ∈ pieces, sep ∉ piece) : split sep ([sep].intercalate pieces) = pieces := by
  induction pieces with
  | nil => exact absurd rfl hne
  | cons piece pieces ih =>
    obtain ⟨hpiece, hpieces⟩ := List.forall_mem_cons.1 h
    cases pieces with
    | nil => simpa using split_of_not_mem hpiece
    | cons next pieces =>
      have hrest := ih (List.cons_ne_nil next pieces) hpieces
      rw [List.intercalate_cons_cons, List.append_assoc, List.singleton_append,
        split_append_sep hpiece, hrest]

/-- The parts of a text before and after the first occurrence of a separator. -/
def cut? (sep : Char) (cs : List Char) : Option (List Char × List Char) :=
  match cs.dropWhile (· ≠ sep) with
  | [] => none
  | _ :: after => some (cs.takeWhile (· ≠ sep), after)

@[simp] theorem cut?_cons_sep (sep : Char) (cs : List Char) :
    cut? sep (sep :: cs) = some ([], cs) := by
  simp [cut?]

theorem cut?_cons {sep c : Char} (h : c ≠ sep) (cs : List Char) :
    cut? sep (c :: cs) = (cut? sep cs).map fun parts => (c :: parts.1, parts.2) := by
  simp only [cut?, List.dropWhile_cons, List.takeWhile_cons, h, ne_eq, not_false_eq_true,
    decide_true, if_true]
  split <;> rfl

/-- A text can be cut exactly where the separator stands first. -/
theorem cut?_eq_some_iff {sep : Char} {cs before after : List Char} :
    cut? sep cs = some (before, after) ↔ cs = before ++ sep :: after ∧ sep ∉ before := by
  induction cs generalizing before after with
  | nil => simp [cut?]
  | cons c cs ih =>
    by_cases h : c = sep
    · subst h
      cases before <;> simp +contextual [eq_comm]
    · rw [cut?_cons h]
      cases before with
      | nil => simp [h]
      | cons b before =>
        simp only [Option.map_eq_some_iff, Prod.exists, Prod.mk.injEq, List.cons.injEq, ih,
          List.cons_append, List.mem_cons, not_or]
        constructor
        · rintro ⟨_, _, ⟨rfl, hn⟩, ⟨rfl, rfl⟩, rfl⟩
          exact ⟨⟨rfl, rfl⟩, Ne.symm h, hn⟩
        · rintro ⟨⟨rfl, rfl⟩, -, hn⟩
          exact ⟨_, _, ⟨rfl, hn⟩, ⟨rfl, rfl⟩, rfl⟩

/-- A text cannot be cut exactly where the separator is missing. -/
theorem cut?_eq_none_iff {sep : Char} {cs : List Char} : cut? sep cs = none ↔ sep ∉ cs := by
  induction cs with
  | nil => simp [cut?]
  | cons c cs ih =>
    by_cases h : c = sep
    · simp [h]
    · simp [cut?_cons h, ih, Ne.symm h]

/-- The lines of a text; the last one may end with or without a line feed. -/
def lines (cs : List Char) : List (List Char) :=
  let pieces := split '\n' cs
  if pieces.getLast? = some [] then pieces.dropLast else pieces

@[simp] theorem lines_nil : lines [] = [] := by simp [lines]

/-- A line without the carriage return at its end. -/
def dropReturn (line : List Char) : List Char :=
  if line.getLast? = some '\r' then line.dropLast else line

/-- The lines of a text whose lines all end with a line feed, or with a carriage return and a line
feed. -/
def shownLines (text : String) : List String :=
  (lines text.toList).map fun line => String.ofList (dropReturn line)

end OsDetection.Text
