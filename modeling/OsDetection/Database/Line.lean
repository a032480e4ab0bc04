import OsDetection.Text.Blank
import OsDetection.Text.Split

/-!
# Lines of a database

A database is read line by line, and what a line says can be told from the line alone: it separates
records, comments, heads the point table, gives the name, the classes or the identifier of a
fingerprint, or is a group of tests such as `T1(R=Y%DF=N)`. `group?_eq_some_iff` is the grammar of
the last kind. Blanks at the end of a line are cut off before.
-/

namespace OsDetection

open OsDetection.Text

/-- What a line says. -/
inductive Line where
  /-- Separates records. -/
  | blank
  | comment
  /-- Heads the point table. -/
  | pointTable
  /-- Names a fingerprint. -/
  | title (name : String)
  | classes (text : String)
  | cpe (text : String)
  /-- The name of a group and the text between its brackets. -/
  | group (name : List Char) (body : List Char)
  /-- None of the above. -/
  | other
  deriving DecidableEq, Repr

namespace Line

/-- The name and the body of a group: letters and digits, then text in brackets that holds no
bracket itself. -/
def group? (cs : List Char) : Option (List Char × List Char) :=
  match cut? '(' cs with
  | none => none
  | some (name, rest) =>
    match cut? ')' rest with
    | some (body, []) =>
      if name ≠ [] ∧ name.all (·.isAlphanum) ∧ '(' ∉ body then some (name, body) else none
    | _ => none

theorem group?_eq_some_iff {cs name body : List Char} :
    group? cs = some (name, body) ↔
      cs = name ++ '(' :: (body ++ [')']) ∧ name ≠ [] ∧ name.all (·.isAlphanum) ∧
        '(' ∉ body ∧ ')' ∉ body := by
  constructor
  · intro h
    unfold group? at h
    split at h
    · exact nomatch h
    · rename_i name' rest hcut
      split at h
      · rename_i body' hbody
        obtain ⟨rfl, -⟩ := cut?_eq_some_iff.1 hcut
        obtain ⟨rfl, hclose⟩ := cut?_eq_some_iff.1 hbody
        split at h
        · rename_i good
          obtain ⟨rfl, rfl⟩ : name' = name ∧ body' = body := by simpa using h
          exact ⟨rfl, good.1, good.2.1, good.2.2, hclose⟩
        · exact nomatch h
      · exact nomatch h
  · rintro ⟨rfl, hne, hall, hopen, hclose⟩
    have hname : '(' ∉ name := by
      intro hmem
      have := List.all_eq_true.1 hall _ hmem
      revert this
      decide
    have hcut : cut? '(' (name ++ '(' :: (body ++ [')'])) = some (name, body ++ [')']) :=
      cut?_eq_some_iff.2 ⟨rfl, hname⟩
    have hbody : cut? ')' (body ++ [')']) = some (body, []) :=
      cut?_eq_some_iff.2 ⟨rfl, hclose⟩
    simp only [group?, hcut, hbody]
    rw [if_pos ⟨hne, hall, hopen⟩]

/-- The text after a keyword and a space. -/
def keyed? (key : String) (cs : List Char) : Option (List Char) :=
  (key.toList ++ [' ']).isPrefixOf? cs

/-- What a line says that does not end in a blank. -/
def ofText (cs : List Char) : Line :=
  if cs = [] then blank
  else if cs.head? = some '#' then comment
  else if cs = "MatchPoints".toList then pointTable
  else
    match keyed? "Fingerprint" cs, keyed? "Class" cs, keyed? "CPE" cs, group? cs with
    | some name, _, _, _ => title (String.ofList (trim name))
    | none, some text, _, _ => classes (String.ofList (trim text))
    | none, none, some text, _ => cpe (String.ofList (trim text))
    | none, none, none, some (name, body) => group name body
    | none, none, none, none => other

end Line

end OsDetection
