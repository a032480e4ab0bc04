import OsDetection.Json.Number
import OsDetection.Json.Reader
import OsDetection.Ranking

/-!
# Data from JSON

How probes, observations, point tables and ranked fingerprints are read from JSON. A record is an
object that has each of its fields once, and may have others; or an array of just the field values
in order. Wherever a map has a key twice, the later value counts.
-/

namespace OsDetection

open OsDetection.Json OsDetection.Numeral

namespace Json.Value

/-- The text of a string. -/
def text? : Value → Option String
  | string text => text
  | _ => none

/-- The natural number below a limit. -/
def natural? (limit : Nat) : Value → Option Nat
  | number n => n.natural? limit
  | _ => none

def binary64? : Value → Option Binary64
  | number n => n.binary64?
  | _ => none

/-- The members of an object, if every key is a text. -/
def members? : Value → Option (List (String × Value))
  | object members => members.mapM fun m => m.1.map fun key => (key, m.2)
  | _ => none

/-- The values of the fields of a record, in the order of their names. -/
def fields? (names : List String) : Value → Option (List Value)
  | array items => if items.length = names.length then some items else none
  | v => do
    let members ← v.members?
    names.mapM fun name =>
      match members.filter (·.1 = name) with
      | [member] => some member.2
      | _ => none

end Json.Value

/-- A probe is given by its name, or as an object with its name as the only key, of value null. -/
def Probe.ofJson? : Value → Option Probe
  | .string (some name) => Probe.ofName? name
  | .object [(some name, .null)] => Probe.ofName? name
  | _ => none

def Observation.ofJson? (v : Value) : Option Observation := do
  match ← v.fields? ["group", "test", "value"] with
  | [probe, test, value] =>
    let probe ← Probe.ofJson? probe
    let test ← test.text?
    let value ← value.text?
    return ⟨probe, test, value⟩
  | _ => none

/-- A row of points is an object from test names to 32-bit numbers. -/
def PointRow.ofJson? (v : Value) : Option PointRow := do
  let members ← v.members?
  members.foldlM
    (fun row member => do
      let points ← member.2.natural? (limit 32)
      return row.insert member.1 (UInt32.ofNat points))
    ∅

/-- A point table is a record of one field, an object from probe names to rows. -/
def PointTable.ofJson? (v : Value) : Option PointTable := do
  match ← v.fields? ["groups"] with
  | [groups] =>
    let members ← groups.members?
    members.foldlM
      (fun table member => do
        let probe ← Probe.ofName? member.1
        let row ← PointRow.ofJson? member.2
        return table.insert probe row)
      PointTable.empty
  | _ => none

/-- The number of fingerprints to report is a record of one field. -/
def limitOfJson? (v : Value) : Option Nat := do
  match ← v.fields? ["top"] with
  | [top] => top.natural? (limit 64)
  | _ => none

def Ranked.ofJson? (v : Value) : Option Ranked := do
  match ← v.fields? ["name", "classes", "cpe", "line", "score", "percent"] with
  | [name, classes, cpe, line, score, percent] =>
    let name ← name.text?
    let classes ← classes.text?
    let cpe ← cpe.text?
    let line ← line.natural? (limit 64)
    let score ← score.natural? (limit 64)
    let percent ← percent.binary64?
    return ⟨name, classes, cpe, line, score, percent⟩
  | _ => none

end OsDetection
