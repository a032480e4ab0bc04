import OsDetection.Json.Value
import OsDetection.Ranking

/-!
# Reports

How ranked fingerprints are shown: as text, one line each under a heading, or as a JSON document.
-/

namespace OsDetection

/-- The form of a report. -/
inductive Format where
  | text | json
  deriving DecidableEq, Repr

/-- The format of a name, which is spelled in small letters. -/
def Format.ofName? : String → Option Format
  | "text" => some .text
  | "json" => some .json
  | _ => none

namespace Report

/-- A heading and a line for each fingerprint. -/
def text (ms : List Ranked) : String :=
  "Best matches:\n" ++ String.join (ms.map fun m => m.text ++ "\n")

/-- A ranked fingerprint as a JSON object. -/
def rankedValue (m : Ranked) : Json.Value :=
  .ofMembers
    [("name", .ofString m.name),
      ("classes", .ofString m.classes),
      ("cpe", .ofString m.cpe),
      ("line", .number (.ofNat m.line)),
      ("score", .number (.ofNat m.score)),
      ("percent", .number (.ofBinary64 m.percent))]

/-- An object with the list of fingerprints. -/
def json (ms : List Ranked) : String :=
  let document : Json.Value := .ofMembers [("matches", .array (ms.map rankedValue))]
  String.ofList (document.pretty 0) ++ "\n"

/-- The report in a format. -/
def inFormat (format : Format) (ms : List Ranked) : String :=
  match format with
  | .text => text ms
  | .json => json ms

/-- What a database contains, in one line. -/
def contents (path : String) (d : Database) : String :=
  let count := d.fingerprints.length
  let most := d.points.most
  s!"{path}: {count} fingerprints, {most} max points\n"

end Report

end OsDetection
