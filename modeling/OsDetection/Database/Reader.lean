import OsDetection.Database.Group
import OsDetection.Database.Line
import OsDetection.Database.Row
import OsDetection.Fingerprint

/-!
# Reading a database

A database is read as a fold over its numbered lines. Between lines the reader keeps the
fingerprints that are complete, the record being read if there is one (`Draft`), and the point
table, as far as it was read. A blank line or the end of the text closes a record; inside the point
table a blank line closes the table and leaves the record open.
-/

namespace OsDetection

open OsDetection.Text

/-- The lines of one record so far. -/
structure Draft where
  name : Option String
  classes : String
  cpe : String
  /-- The line of the name; until there is one, the first line of the record. -/
  line : Nat
  responses : ProbeMap (Response Pattern)

namespace Draft

/-- A record that begins on a line. -/
def start (line : Nat) : Draft := ⟨none, "", "", line, ∅⟩

/-- The fingerprint of a record that is closed, which has to be named and complete. -/
def close (d : Draft) : Except Fault Fingerprint :=
  match d.name with
  | none => .error (.unnamed d.line)
  | some name =>
    let fingerprint : Fingerprint := ⟨name, d.classes, d.cpe, d.line, d.responses⟩
    if fingerprint.missing = [] then .ok fingerprint
    else .error (.incomplete d.line name fingerprint.missing)

end Draft

namespace Database

/-- What is known between two lines of a database. -/
structure Reading where
  /-- The fingerprints whose records are closed. -/
  fingerprints : Array Fingerprint
  /-- The record being read. -/
  draft : Option Draft
  /-- The point table, once it is closed. -/
  points : Option PointTable
  /-- The point table while it is being read. -/
  table : Option PointTable

namespace Reading

/-- Nothing was read yet. -/
def start : Reading := ⟨#[], none, none, none⟩

/-- The record being read, begun by this line if there is none. -/
def draftAt (r : Reading) (line : Nat) : Draft := r.draft.getD (.start line)

/-- Closes the record being read, if any. -/
def closeDraft (r : Reading) : Logged Fault Reading :=
  match r.draft with
  | none => return r
  | some draft => do
    let fingerprint ← Logged.ofExcept draft.close
    Logged.note (.fingerprintRead fingerprint.name fingerprint.line)
    return { r with fingerprints := r.fingerprints.push fingerprint, draft := none }

/-- Names the record being read. -/
def addTitle (r : Reading) (line : Nat) (name : String) : Logged Fault Reading :=
  let draft := r.draftAt line
  match draft.name with
  | some earlier => Logged.fail (.unterminated line earlier)
  | none => return { r with draft := some { draft with name := some name, line } }

/-- Adds a group to the record being read. -/
def addGroup (source : String) (r : Reading) (line : Nat) (content : String)
    (name body : List Char) : Logged Fault Reading :=
  match Probe.ofName? (String.ofList name) with
  | none => Logged.fail (.unknownProbe line (String.ofList name))
  | some probe =>
    let draft := r.draftAt line
    if draft.responses.contains probe then
      Logged.fail (.repeatedGroup line probe (draft.name.getD ""))
    else do
      let response ← Response.ofBody source line content probe body
      let responses := draft.responses.insert probe response
      return { r with draft := some { draft with responses } }

/-- Adds a row to the point table being read. -/
def addRow (r : Reading) (table : PointTable) (line : Nat) (content : String)
    (name body : List Char) : Except Fault Reading :=
  match Probe.ofName? (String.ofList name) with
  | none => .error (.unknownProbe line (String.ofList name))
  | some probe =>
    if probe.isInformational then .error (.informationalPoints line probe)
    else do
      let row ← PointRow.ofBody line content probe body
      if table.contains probe then .error (.repeatedRow line probe)
      else return { r with table := some (table.insert probe row) }

/-- Reads a line that stands outside the point table. -/
def recordLine (source : String) (r : Reading) (line : Nat) (cs : List Char) :
    Logged Fault Reading :=
  match Line.ofText cs with
  | .blank => r.closeDraft
  | .comment => return r
  | .pointTable =>
    match r.points with
    | some _ => Logged.fail (.repeatedTable line)
    | none => return { r with table := some .empty }
  | .title name => r.addTitle line name
  | .classes text => return { r with draft := some { r.draftAt line with classes := text } }
  | .cpe text => return { r with draft := some { r.draftAt line with cpe := text } }
  | .group name body => addGroup source r line (String.ofList cs) name body
  | .other => Logged.fail (.malformedLine line (String.ofList cs))

/-- Reads a line of the point table. -/
def tableLine (r : Reading) (table : PointTable) (line : Nat) (cs : List Char) :
    Logged Fault Reading :=
  match Line.ofText cs with
  | .blank => do
    Logged.note (.pointsRead table.most)
    return { r with points := some table, table := none }
  | .comment => return r
  | .group name body => Logged.ofExcept (addRow r table line (String.ofList cs) name body)
  | _ => Logged.fail (.malformedLine line (String.ofList cs))

/-- Reads a line with its number. -/
def step (source : String) (r : Reading) (line : List Char × Nat) : Logged Fault Reading :=
  match r.table with
  | some table => r.tableLine table line.2 (trimEnd line.1)
  | none => recordLine source r line.2 (trimEnd line.1)

/-- The database, after the last line. -/
def finish (source : String) (lineCount : Nat) (r : Reading) : Logged Fault Database :=
  match r.table with
  | some _ => Logged.fail (.unexpectedEnd lineCount .pointTable)
  | none => do
    let r ← r.closeDraft
    match r.points with
    | none => Logged.fail .noTable
    | some points =>
      Logged.note (.databaseRead r.fingerprints.size source points.most)
      return ⟨r.fingerprints.toList, points⟩

end Reading

/-- Reads the lines of a database. `source` is what notices call it. -/
def ofLines (source : String) (lines : List (List Char)) : Logged Fault Database := do
  let r ← Logged.foldl (Reading.step source) .start (lines.zipIdx 1)
  r.finish source lines.length

/-- Reads a database. -/
def ofText (source text : String) : Logged Fault Database :=
  ofLines source (lines text.toList)

end Database

end OsDetection
