import OsDetection.Fingerprint
import OsDetection.Text.Split

/-!
# Writing a database

The canonical text of a database: the point table with a line for each row, then the fingerprints,
each with a line for every probe that it says something about. Classes and identifier are left out
where they are empty, and a blank line ends the table and each record.
-/

namespace OsDetection

/-- A name and, in brackets, entries separated by `%`. -/
def groupLine (name : String) (entries : List (List Char)) : List Char :=
  name.toList ++ '(' :: (['%'].intercalate entries ++ [')'])

/-- A test and what is said about it. -/
def entryText (test : String) (said : List Char) : List Char :=
  test.toList ++ '=' :: said

namespace PointTable

/-- The line of a row. -/
def rowLine (probe : Probe) (row : PointRow) : List Char :=
  groupLine probe.name (row.toList.map fun entry =>
    entryText entry.1 (Nat.toDigits 10 entry.2.toNat))

/-- The lines of the table, heading and final blank line included. -/
def writtenLines (t : PointTable) : List (List Char) :=
  "MatchPoints".toList :: t.rows.toList.map (fun row => rowLine row.1 row.2) ++ [[]]

end PointTable

namespace Fingerprint

/-- The line of the expected response to a probe. -/
def responseLine (probe : Probe) : Response Pattern → List Char
  | .silent => groupLine probe.name []
  | .answered tests =>
    groupLine probe.name (tests.toList.map fun test => entryText test.1 test.2.source.toList)

/-- A keyword and a text, unless the text is empty. -/
def keyedLines (key text : String) : List (List Char) :=
  if text = "" then [] else [key.toList ++ ' ' :: text.toList]

/-- The lines of a record, the final blank line included. -/
def writtenLines (f : Fingerprint) : List (List Char) :=
  ("Fingerprint".toList ++ ' ' :: f.name.toList) :: keyedLines "Class" f.classes ++
    keyedLines "CPE" f.cpe ++
    f.responses.toList.map (fun response => responseLine response.1 response.2) ++ [[]]

end Fingerprint

namespace Database

/-- The lines of the canonical text. -/
def writtenLines (d : Database) : List (List Char) :=
  d.points.writtenLines ++ d.fingerprints.flatMap (·.writtenLines)

/-- The canonical text of a database. -/
def canonicalText (d : Database) : String :=
  String.ofList (d.writtenLines.flatMap (· ++ ['\n']))

end Database

end OsDetection
