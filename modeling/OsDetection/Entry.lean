import OsDetection.Observation
import OsDetection.Pattern
import OsDetection.Text.Quoted

/-!
# Entries of a reference group

A group of a reference fingerprint is a list of entries such as `W1|W2=0|5B40`: names of tests
separated by `|`, an equals sign, and the pattern they share. `Entry.ofText` reads one; the first
equals sign divides names from pattern, so a pattern may hold more of them.
-/

namespace OsDetection

open OsDetection.Text

/-- Tests that share a pattern. -/
structure Entry where
  names : List String
  pattern : Pattern
  deriving DecidableEq

namespace Entry

/-- Why a text is no entry. -/
inductive Fault where
  /-- There is no equals sign. -/
  | missingEquals
  /-- A test name is empty. -/
  | unnamedTest
  /-- A test name has a character other than ASCII letters and digits. -/
  | badName (c : Char)
  /-- The text after the equals sign is no pattern. -/
  | pattern (fault : Pattern.Fault)
  deriving DecidableEq, Repr

def Fault.message : Fault → String
  | missingEquals => "missing '=' after test names"
  | unnamedTest => "empty test name"
  | badName c => "unexpected character " ++ quotedChar c ++ " in test names"
  | pattern fault => fault.message

/-- The test name that a text spells. -/
def nameOfText (cs : List Char) : Except Fault String :=
  if cs = [] then .error .unnamedTest
  else
    match cs.find? (!·.isAlphanum) with
    | some c => .error (.badName c)
    | none => .ok (String.ofList cs)

/-- The entry that a text spells, or its first fault from the left. -/
def ofText (cs : List Char) : Except Fault Entry :=
  match cut? '=' cs with
  | none => .error .missingEquals
  | some (names, source) => do
    let names ← (split '|' names).mapM nameOfText
    let pattern ← (Pattern.ofText (String.ofList source)).mapError .pattern
    return { names, pattern }

/-- Each name with the pattern. -/
def pairs (e : Entry) : List (String × Pattern) :=
  e.names.map fun name => (name, e.pattern)

/-- Whether the entry is `R=N`, by which a group says that its probe got no answer. -/
def isSilence (e : Entry) : Bool :=
  e.names = [responsiveness] && e.pattern.source = noAnswer

/-- An entry in writing. -/
def text (e : Entry) : List Char :=
  ['|'].intercalate (e.names.map (·.toList)) ++ '=' :: e.pattern.source.toList

end Entry

end OsDetection
