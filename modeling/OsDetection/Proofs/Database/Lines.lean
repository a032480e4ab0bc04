import Mathlib.Data.List.Basic
import Mathlib.Data.List.TakeWhile
import OsDetection.Database.Line
import OsDetection.Proofs.Catalogue

/-!
# What the lines of a database say

`Line.Says` lists what the texts of the known kinds of lines say. The kinds exclude each other, so
that it is the same as what is read (`Line.ofText_eq_iff`). Before it come facts on texts: one that
begins with whole lines has these lines first (`lines_append`), and a line that was trimmed ends in
a visible character, if in any (`isBlank_getLast_trimEnd`).
-/

namespace OsDetection

namespace Text

/-! ## Texts made of lines -/

/-- Whole lines at the beginning of a text are its first lines. -/
theorem lines_append {ls : List (List Char)} (h : ∀ l ∈ ls, '\n' ∉ l) (cs : List Char) :
    lines (ls.flatMap (· ++ ['\n']) ++ cs) = ls ++ lines cs := by
  induction ls with
  | nil => rfl
  | cons l ls ih =>
    rw [List.flatMap_cons, List.append_assoc, List.append_assoc, List.singleton_append]
    unfold lines at ih ⊢
    rw [split_append_sep (h l (by simp))]
    have hne := split_ne_nil '\n' (ls.flatMap (· ++ ['\n']) ++ cs)
    obtain ⟨piece, rest, hs⟩ := List.exists_cons_of_ne_nil hne
    have ih := ih fun l hl => h l (by simp [hl])
    rw [hs] at ih ⊢
    rw [List.cons_append, ← ih]
    simp only [List.getLast?_cons_cons, List.dropLast_cons_cons]
    split <;> rfl

/-- A line ends at the first line feed. -/
theorem newline_not_mem_of_mem_lines {cs l : List Char} (h : l ∈ lines cs) : '\n' ∉ l := by
  unfold lines at h
  dsimp only at h
  split at h
  · exact not_mem_of_mem_split (List.dropLast_subset _ h)
  · exact not_mem_of_mem_split h

/-- A text whose final blanks are cut off ends in a visible character, if it is not empty. -/
theorem isBlank_getLast_trimEnd {cs : List Char} (h : trimEnd cs ≠ []) :
    isBlank ((trimEnd cs).getLast h) = false := by
  have hne : cs.reverse.dropWhile isBlank ≠ [] := by simpa [trimEnd] using h
  have := List.head_dropWhile_not isBlank hne
  simpa [trimEnd] using this

/-- There are no more blanks to cut off after the first time. -/
theorem trimEnd_trimEnd (cs : List Char) : trimEnd (trimEnd cs) = trimEnd cs := by
  by_cases h : trimEnd cs = []
  · rw [h, trimEnd_nil]
  · have hlast := @trimEnd_concat (trimEnd cs).dropLast _ (isBlank_getLast_trimEnd h)
    rwa [List.dropLast_concat_getLast] at hlast

/-- Only blanks are trimmed to nothing. -/
theorem trim_eq_nil_iff {cs : List Char} : trim cs = [] ↔ ∀ c ∈ cs, isBlank c := by
  rw [trim, trimEnd_eq_nil_iff, trimStart]
  constructor
  · intro h c hc
    rw [← @List.takeWhile_append_dropWhile _ isBlank cs, List.mem_append] at hc
    exact hc.elim (fun hc => List.mem_takeWhile_imp hc) (h c)
  · exact fun h c hc => h c (List.dropWhile_suffix isBlank |>.mem hc)

/-- What comes after a space in a line that was trimmed is not blank. -/
theorem trim_ne_nil_of_trimEnd {raw key text : List Char}
    (h : trimEnd raw = key ++ ' ' :: text) : trim text ≠ [] := by
  intro htext
  have hne : trimEnd raw ≠ [] := by simp [h]
  have hlast : (trimEnd raw).getLast hne ∈ ' ' :: text := by
    simp only [h, List.getLast_append_of_ne_nil _ (List.cons_ne_nil ' ' text)]
    exact List.getLast_mem _
  have hblank : isBlank ((trimEnd raw).getLast hne) := by
    rcases List.mem_cons.1 hlast with hspace | hmem
    · rw [hspace]
      decide
    · exact trim_eq_nil_iff.1 htext _ hmem
  rw [isBlank_getLast_trimEnd] at hblank
  exact nomatch hblank

end Text

namespace Line

open OsDetection.Text

/-! ## Kinds of lines -/

/-- A keyword and a space begin a line exactly if a text comes after them. -/
theorem keyed?_eq_some_iff {key : String} {cs text : List Char} :
    keyed? key cs = some text ↔ cs = key.toList ++ ' ' :: text := by
  unfold keyed?
  rw [List.isPrefixOf?_eq_some_iff_append_eq]
  simp [eq_comm]

/-- The text of a line decides which keyword it begins with. -/
theorem keyed?_eq_none {key other : String} {text : List Char}
    (h : ¬ (key.toList ++ [' ']) <+: (other.toList ++ ' ' :: text)) :
    keyed? key (other.toList ++ ' ' :: text) = none := by
  cases hk : keyed? key (other.toList ++ ' ' :: text) with
  | none => rfl
  | some rest =>
    refine absurd ⟨rest, ?_⟩ h
    rw [keyed?_eq_some_iff.1 hk]
    simp

/-- A group does not begin with a keyword and a space, since its name goes on to its bracket. -/
theorem keyed?_group {key : String} {name body : List Char} (hkey : '(' ∉ key.toList)
    (hname : name.all (·.isAlphanum)) : keyed? key (name ++ '(' :: (body ++ [')'])) = none := by
  cases hk : keyed? key (name ++ '(' :: (body ++ [')'])) with
  | none => rfl
  | some text =>
    have hspace : ' ' ∉ name := fun hmem => by
      have := List.all_eq_true.1 hname _ hmem
      revert this
      decide
    rcases List.append_eq_append_iff.1 (keyed?_eq_some_iff.1 hk) with
      ⟨gap, hkeyname, hrest⟩ | ⟨gap, rfl, hrest⟩
    · -- The bracket would belong to the keyword, or be the space.
      cases gap with
      | nil => exact absurd (List.cons.inj hrest).1 (by decide)
      | cons c gap =>
        obtain ⟨rfl, -⟩ := List.cons.inj hrest
        exact absurd (by simp [hkeyname]) hkey
    · -- The space would belong to the name, or be the bracket.
      cases gap with
      | nil => exact absurd (List.cons.inj hrest).1 (by decide)
      | cons c gap =>
        obtain ⟨rfl, -⟩ := List.cons.inj hrest
        exact absurd (by simp) hspace

/-- A line with a bracket does not begin the point table. -/
theorem ne_heading_of_mem {cs : List Char} (h : '(' ∈ cs) : cs ≠ "MatchPoints".toList := fun hcs =>
  absurd (hcs ▸ h) (by decide)

/-- No blank stands at the end of a group. -/
theorem trimEnd_group (name body : List Char) :
    trimEnd (name ++ '(' :: (body ++ [')'])) = name ++ '(' :: (body ++ [')']) := by
  simpa using @trimEnd_concat (name ++ '(' :: body) ')' (by decide)

/-- What the lines of the known kinds say. -/
inductive Says : List Char → Line → Prop
  | blank : Says [] blank
  | comment (text : List Char) : Says ('#' :: text) comment
  | pointTable : Says "MatchPoints".toList pointTable
  | title (text : List Char) :
    Says ("Fingerprint".toList ++ ' ' :: text) (title (String.ofList (trim text)))
  | classes (text : List Char) :
    Says ("Class".toList ++ ' ' :: text) (classes (String.ofList (trim text)))
  | cpe (text : List Char) : Says ("CPE".toList ++ ' ' :: text) (cpe (String.ofList (trim text)))
  | group {name body : List Char} (named : name ≠ []) (alphanum : name.all (·.isAlphanum))
    (opened : '(' ∉ body) (closed : ')' ∉ body) :
    Says (name ++ '(' :: (body ++ [')'])) (group name body)

/-- A line is read as what lines of its kind say. -/
theorem Says.ofText_eq {cs : List Char} {line : Line} (h : Says cs line) : ofText cs = line := by
  cases h with
  | blank => rfl
  | comment text => simp [ofText]
  | pointTable => decide
  | title text =>
    have hkey : keyed? "Fingerprint" ("Fingerprint".toList ++ ' ' :: text) = some text :=
      keyed?_eq_some_iff.2 rfl
    simp only [ofText, hkey]
    rw [if_neg (by simp), if_neg (by simp), if_neg (by simp)]
  | classes text =>
    have hkey : keyed? "Class" ("Class".toList ++ ' ' :: text) = some text :=
      keyed?_eq_some_iff.2 rfl
    have htitle : keyed? "Fingerprint" ("Class".toList ++ ' ' :: text) = none :=
      keyed?_eq_none (by simp)
    simp only [ofText, hkey, htitle]
    rw [if_neg (by simp), if_neg (by simp), if_neg (by simp)]
  | cpe text =>
    have hkey : keyed? "CPE" ("CPE".toList ++ ' ' :: text) = some text :=
      keyed?_eq_some_iff.2 rfl
    have htitle : keyed? "Fingerprint" ("CPE".toList ++ ' ' :: text) = none :=
      keyed?_eq_none (by simp)
    have hclasses : keyed? "Class" ("CPE".toList ++ ' ' :: text) = none :=
      keyed?_eq_none (by simp)
    simp only [ofText, hkey, htitle, hclasses]
    rw [if_neg (by simp), if_neg (by simp), if_neg (by simp)]
  | @group name body named alphanum opened closed =>
    have hgroup : group? (name ++ '(' :: (body ++ [')'])) = some (name, body) :=
      group?_eq_some_iff.2 ⟨rfl, named, alphanum, opened, closed⟩
    have hcomment : (name ++ '(' :: (body ++ [')'])).head? ≠ some '#' := by
      obtain ⟨c, name, rfl⟩ := List.exists_cons_of_ne_nil named
      intro hc
      obtain rfl : c = '#' := by simpa using hc
      exact absurd (List.all_eq_true.1 alphanum '#' (by simp)) (by decide)
    have htable : name ++ '(' :: (body ++ [')']) ≠ "MatchPoints".toList :=
      ne_heading_of_mem (by simp)
    simp only [ofText, hgroup, keyed?_group (by decide : '(' ∉ "Fingerprint".toList) alphanum,
      keyed?_group (by decide : '(' ∉ "Class".toList) alphanum,
      keyed?_group (by decide : '(' ∉ "CPE".toList) alphanum]
    rw [if_neg (by simp), if_neg hcomment, if_neg htable]

/-- The group of a probe. -/
theorem Says.ofProbe (probe : Probe) {body : List Char} (opened : '(' ∉ body)
    (closed : ')' ∉ body) :
    Says (probe.name.toList ++ '(' :: (body ++ [')'])) (.group probe.name.toList body) :=
  .group probe.toList_name_ne_nil (List.all_eq_true.2 probe.isAlphanum_name) opened closed

/-- A line is of one kind only. -/
theorem Says.unique {cs : List Char} {line line' : Line} (h : Says cs line) (h' : Says cs line') :
    line = line' :=
  h.ofText_eq.symm.trans h'.ofText_eq

section
variable {cs : List Char} {line : Line}

/-- Only a title begins with its keyword. -/
theorem Says.keyed?_fingerprint (h : Says cs line) (hline : ∀ name, line ≠ .title name) :
    keyed? "Fingerprint" cs = none := by
  cases hkey : keyed? "Fingerprint" cs with
  | none => rfl
  | some text =>
    rw [keyed?_eq_some_iff.1 hkey] at h
    exact absurd (h.unique (.title text)) (hline _)

/-- Only the classes begin with their keyword. -/
theorem Says.keyed?_class (h : Says cs line) (hline : ∀ text, line ≠ .classes text) :
    keyed? "Class" cs = none := by
  cases hkey : keyed? "Class" cs with
  | none => rfl
  | some text =>
    rw [keyed?_eq_some_iff.1 hkey] at h
    exact absurd (h.unique (.classes text)) (hline _)

/-- Only the identifier begins with its keyword. -/
theorem Says.keyed?_cpe (h : Says cs line) (hline : ∀ text, line ≠ .cpe text) :
    keyed? "CPE" cs = none := by
  cases hkey : keyed? "CPE" cs with
  | none => rfl
  | some text =>
    rw [keyed?_eq_some_iff.1 hkey] at h
    exact absurd (h.unique (.cpe text)) (hline _)

/-- Only a group has a name and a body in brackets. -/
theorem Says.group? (h : Says cs line) (hline : ∀ name body, line ≠ .group name body) :
    Line.group? cs = none := by
  cases hgroup : Line.group? cs with
  | none => rfl
  | some parts =>
    obtain ⟨rfl, named, alphanum, opened, closed⟩ := group?_eq_some_iff.1 hgroup
    exact absurd (h.unique (.group named alphanum opened closed)) (hline _ _)

end

/-- What is read, unless it is none of the known kinds, is what the line says. -/
theorem says_ofText {cs : List Char} (h : ofText cs ≠ other) : Says cs (ofText cs) := by
  unfold ofText at h ⊢
  split
  · next hnil => exact hnil ▸ .blank
  · split
    · next hhead =>
      obtain ⟨text, rfl⟩ := List.head?_eq_some_iff.1 hhead
      exact .comment text
    · split
      · next htable => exact htable ▸ .pointTable
      · next hnil hhead htable =>
        rw [if_neg hnil, if_neg hhead, if_neg htable] at h
        split at h
        · next hkey => exact keyed?_eq_some_iff.1 hkey ▸ .title _
        · next hkey => exact keyed?_eq_some_iff.1 hkey ▸ .classes _
        · next hkey => exact keyed?_eq_some_iff.1 hkey ▸ .cpe _
        · next hgroup =>
          obtain ⟨rfl, named, alphanum, opened, closed⟩ := group?_eq_some_iff.1 hgroup
          exact .group named alphanum opened closed
        · exact absurd rfl h

/-- A line of an unknown kind is no group. -/
theorem group?_eq_none_of_other {cs : List Char} (h : ofText cs = other) : group? cs = none := by
  cases hgroup : group? cs with
  | none => rfl
  | some parts =>
    obtain ⟨rfl, named, alphanum, opened, closed⟩ := group?_eq_some_iff.1 hgroup
    exact absurd (h.symm.trans (Says.group named alphanum opened closed).ofText_eq) (by simp)

/-- The kinds of lines exclude each other. -/
theorem ofText_eq_iff {cs : List Char} {line : Line} (h : line ≠ other) :
    ofText cs = line ↔ Says cs line := by
  refine ⟨fun heq => ?_, ?_⟩
  · obtain rfl := heq
    exact says_ofText h
  · exact Says.ofText_eq

end Line

end OsDetection
