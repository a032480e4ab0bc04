import OsDetection.Fault
import OsDetection.Logged
import OsDetection.Query
import OsDetection.Text.Blank

/-!
# Reading a query

A query is a sequence of groups such as `T1(R=Y%DF=N)`. Blanks are ignored wherever they stand, even
inside a name or a value, so a query may be broken into lines at will. It is read as a fold over its
characters: a step knows the line and what was being read (`Place`), and either finds a place for
the character or faults there, whatever may follow.
-/

namespace OsDetection

open OsDetection.Text

namespace Query

/-- The tests of a group so far, with their values, in the order they count in. -/
abbrev Tests := List (String × String)

/-- What is being read. The last text in each place is what there is of it so far. -/
inductive Place where
  /-- The name of a group. -/
  | groupName (name : String)
  /-- The name of a test, after some tests of a group. -/
  | testName (probe : Probe) (tests : Tests) (name : String)
  /-- The value of a test whose name was ended on a line. -/
  | value (probe : Probe) (tests : Tests) (test : String) (line : Nat) (text : String)
  deriving DecidableEq, Repr

/-- What is known between two characters of a query. -/
structure Reading where
  line : Nat
  query : Query
  place : Place
  deriving DecidableEq

/-- The response that the tests of a group amount to, and the observations they make. A group is
silent if it has no tests, or `R=N` alone. -/
def response (line : Nat) (probe : Probe) (tests : Tests) :
    Except Fault (Response String × List Observation) :=
  if tests = [] ∨ tests = [(responsiveness, noAnswer)] then
    .ok (.silent, [.silence probe])
  else if tests.any fun test => Observation.meansSilence test.1 test.2 then
    .error (.misspelled line (.mixedSilence probe))
  else
    .ok (.answered (.ofList tests), tests.map fun test => ⟨probe, test.1, test.2⟩)

/-- Adds a test to those of its group. `R=N` is allowed in every group. A test given again counts
in the later place, with the later value. -/
def addTest (line nameLine : Nat) (probe : Probe) (tests : Tests) (test value : String) :
    Logged Fault Tests :=
  if probe.accepts test || Observation.meansSilence test value then do
    if tests.any (·.1 = test) then
      Logged.note (.repeatedObservation line test probe)
    return tests.filter (·.1 ≠ test) ++ [(test, value)]
  else
    Logged.fail (.unknownTest nameLine probe test)

namespace Reading

/-- Nothing was read yet. -/
def start : Reading := ⟨1, .empty, .groupName ""⟩

def misspelled (r : Reading) (how : Misspelling) : Logged Fault Reading :=
  Logged.fail (.misspelled r.line how)

/-- Begins the group of a name. -/
def openGroup (r : Reading) (name : String) : Logged Fault Reading :=
  match Probe.ofName? name with
  | none => Logged.fail (.unknownProbe r.line name)
  | some probe =>
    if r.query.responses.contains probe then
      Logged.fail (.repeatedGroup r.line probe "<query>")
    else return { r with place := .testName probe [] "" }

/-- Ends a group. -/
def closeGroup (r : Reading) (probe : Probe) (tests : Tests) : Logged Fault Reading := do
  let (response, observations) ← Logged.ofExcept (response r.line probe tests)
  Logged.note (.groupRead probe observations.length)
  let query : Query :=
    ⟨r.query.observations ++ observations, r.query.responses.insert probe response⟩
  return { r with query, place := .groupName "" }

/-- Reads a character in the name of a group. -/
def inGroupName (r : Reading) (name : String) (c : Char) : Logged Fault Reading :=
  if c = '(' then r.openGroup name
  else if c.isAlphanum then return { r with place := .groupName (name.push c) }
  else r.misspelled (.unexpected c)

/-- Reads a character in the name of a test. -/
def inTestName (r : Reading) (probe : Probe) (tests : Tests) (name : String) (c : Char) :
    Logged Fault Reading :=
  if c = ')' then
    if name = "" ∧ tests = [] then r.closeGroup probe []
    else r.misspelled (.missingEquals name probe)
  else if c = '=' then
    if name = "" then r.misspelled (.unnamedTest probe)
    else return { r with place := .value probe tests name r.line "" }
  else if c.isAlphanum then return { r with place := .testName probe tests (name.push c) }
  else r.misspelled (.unexpected c)

/-- Reads a character in the value of a test. -/
def inValue (r : Reading) (probe : Probe) (tests : Tests) (test : String) (nameLine : Nat)
    (text : String) (c : Char) : Logged Fault Reading :=
  if c = '%' then do
    let tests ← addTest r.line nameLine probe tests test text
    return { r with place := .testName probe tests "" }
  else if c = ')' then do
    let tests ← addTest r.line nameLine probe tests test text
    r.closeGroup probe tests
  else if c = '(' then r.misspelled (.unexpected c)
  else return { r with place := .value probe tests test nameLine (text.push c) }

/-- Reads a character that is no blank. -/
def visible (r : Reading) (c : Char) : Logged Fault Reading :=
  match r.place with
  | .groupName name => r.inGroupName name c
  | .testName probe tests name => r.inTestName probe tests name c
  | .value probe tests test nameLine text => r.inValue probe tests test nameLine text c

/-- Reads a character. -/
def step (r : Reading) (c : Char) : Logged Fault Reading :=
  if c = '\n' then return { r with line := r.line + 1 }
  else if isBlank c then return r
  else r.visible c

/-- The query, after the last character. -/
def finish (r : Reading) : Except Fault Query :=
  match r.place with
  | .groupName name =>
    if name = "" then .ok r.query else .error (.unexpectedEnd r.line (.groupName name))
  | .testName probe _ _ => .error (.unexpectedEnd r.line (.group probe))
  | .value probe _ test _ _ => .error (.unexpectedEnd r.line (.value probe test))

end Reading

/-- Reads a query. -/
def ofText (text : String) : Logged Fault Query := do
  let r ← Logged.foldl Reading.step .start text.toList
  Logged.ofExcept r.finish

end Query

end OsDetection
