import OsDetection.Entry

/-!
# Faults

Everything that can be wrong with a database, a query or the two together, each with what is needed
to find the offending input. The wording is in one place, `Fault.message`.
-/

namespace OsDetection

open OsDetection.Text

/-- What was being read when a text ended too early. -/
inductive Unfinished where
  | pointTable
  /-- The name of a group, as far as it was given. -/
  | groupName (name : String)
  | group (probe : Probe)
  /-- The value of a test. -/
  | value (probe : Probe) (test : String)
  deriving DecidableEq, Repr

def Unfinished.text : Unfinished → String
  | pointTable => "MatchPoints"
  | groupName name => s!"group {name}"
  | group probe => s!"group {probe}"
  | value probe test => s!"{probe}.{test}"

/-- How a query departs from its grammar. -/
inductive Misspelling where
  | unexpected (c : Char)
  | missingEquals (test : String) (probe : Probe)
  | unnamedTest (probe : Probe)
  /-- A group reports silence together with other tests. -/
  | mixedSilence (probe : Probe)
  deriving DecidableEq, Repr

def Misspelling.text : Misspelling → String
  | unexpected c => "unexpected " ++ quotedChar c
  | missingEquals test probe => s!"expected '=' after '{test}' in group {probe}"
  | unnamedTest probe => s!"empty test name in group {probe}"
  | mixedSilence probe => s!"R=N mixed with other tests in group {probe}"

/-- Something wrong with a database, a query, or the two together. -/
inductive Fault where
  /-- A database line that is none of the known kinds. -/
  | malformedLine (line : Nat) (content : String)
  | unknownProbe (line : Nat) (name : String)
  | unknownTest (line : Nat) (probe : Probe) (test : String)
  /-- A fingerprint or query has two groups of one probe. -/
  | repeatedGroup (line : Nat) (probe : Probe) (fingerprint : String)
  | badEntry (line : Nat) (entry : String) (reason : Entry.Fault)
  /-- A fingerprint lacks groups that it must have. -/
  | incomplete (line : Nat) (name : String) (missing : List Probe)
  /-- A record without a name; the line is the record's first. -/
  | unnamed (line : Nat)
  /-- A record is named a second time. -/
  | unterminated (line : Nat) (name : String)
  | repeatedRow (line : Nat) (probe : Probe)
  | repeatedPoints (line : Nat) (probe : Probe) (test : String)
  /-- A row of points for a probe that carries no evidence. -/
  | informationalPoints (line : Nat) (probe : Probe)
  | badPoints (line : Nat) (probe : Probe) (test : String) (value : String)
  | repeatedTable (line : Nat)
  | noTable
  | unexpectedEnd (line : Nat) (reading : Unfinished)
  | misspelled (line : Nat) (how : Misspelling)
  /-- An observed test has no points. -/
  | noPoints (probe : Probe) (test : String)
  deriving DecidableEq, Repr

namespace Fault

def message : Fault → String
  | malformedLine line content => s!"line {line}: malformed line: " ++ quoted content
  | unknownProbe line name => s!"line {line}: unknown test group '{name}'"
  | unknownTest line probe test => s!"line {line}: unknown test '{test}' in group {probe}"
  | repeatedGroup line probe fingerprint =>
    s!"line {line}: group {probe} defined twice in fingerprint '{fingerprint}'"
  | badEntry line entry reason =>
    s!"line {line}: invalid expression '{entry}': " ++ reason.message
  | incomplete line name missing =>
    s!"line {line}: fingerprint '{name}' is missing groups: " ++
      ", ".intercalate (missing.map (·.name))
  | unnamed line => s!"line {line}: fingerprint record has no 'Fingerprint' line"
  | unterminated line name =>
    s!"line {line}: new fingerprint started before '{name}' was terminated by a blank line"
  | repeatedRow line probe => s!"line {line}: group {probe} redefined in MatchPoints"
  | repeatedPoints line probe test => s!"line {line}: test {probe}.{test} redefined in MatchPoints"
  | informationalPoints line probe =>
    s!"line {line}: informational group {probe} cannot carry points"
  | badPoints line probe test value =>
    s!"line {line}: invalid points value '{value}' for {probe}.{test}"
  | repeatedTable line => s!"line {line}: MatchPoints defined twice"
  | noTable => "no MatchPoints section found"
  | unexpectedEnd line reading =>
    s!"line {line}: unexpected end of input while reading " ++ reading.text
  | misspelled line how => s!"line {line}: " ++ how.text
  | noPoints probe test => s!"no points defined for test {probe}.{test}"

end Fault

end OsDetection
