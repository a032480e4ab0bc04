import OsDetection.CommandLine.Arguments
import OsDetection.Database.File

/-!
# Sessions of the command line program

A session reads its sources, answers one command line and tells what to print and how to end. It is
a pure function of what its sources answer, whatever they are (`Sources`); the database is read
first, and the query only once the database is known.
-/

namespace OsDetection.CommandLine

/-- The environment variables that a session looks at. -/
structure Environment where
  /-- The default path of the database. -/
  database : Option String
  /-- The level of the log. -/
  logLevel : Option String
  deriving DecidableEq, Repr

/-- How a session reads. -/
structure Sources (m : Type → Type) where
  file : String → m (Except FileFault String)
  standardInput : m (Except FileFault String)

/-- Why a session fails. -/
inductive Failure where
  | database (fault : Database.SourceFault)
  | queryFile (path : String) (fault : FileFault)
  | standardInput (fault : FileFault)
  | query (fault : Fault)
  | scoring (fault : Fault)
  deriving DecidableEq, Repr

namespace Failure

def message : Failure → String
  | database _ => "Failed to load fingerprint database"
  | queryFile path _ => s!"Failed to read query from {path}"
  | standardInput _ => "Failed to read query from stdin"
  | query _ => "Invalid query fingerprint"
  | scoring fault => fault.message

/-- What the failure comes from, where the message does not tell. -/
def cause? : Failure → Option String
  | database fault => some fault.message
  | queryFile _ fault | standardInput fault => some fault.message
  | query fault => some fault.message
  | scoring _ => none

/-- A text with every line set four spaces in. -/
def indented (text : String) : String :=
  "\n".intercalate ((Text.split '\n' text.toList).map fun line => "    " ++ String.ofList line)

/-- What is told about a failure. -/
def report (f : Failure) : String :=
  "Error: " ++ f.message ++ "\n" ++
    match f.cause? with
    | none => ""
    | some cause => "\nCaused by:\n" ++ indented cause ++ "\n"

end Failure

/-- What a session leaves behind. -/
structure Outcome where
  exitCode : Nat
  output : String
  /-- What is told about a failure. -/
  report : String
  /-- The notices that the log shows. -/
  log : List Notice
  deriving DecidableEq, Repr

/-- The database that is read if neither option nor environment names one. -/
def defaultDatabase : String := "nmap-os-db"

/-- The path of the database. -/
def databasePath (env : Environment) (s : Settings) : String :=
  s.database.getD (env.database.getD defaultDatabase)

/-- The least important rank of notices that a level name lets through. -/
def rankOfLevel (name : String) : Nat :=
  let small := name.map Char.toLower
  if small = "off" ∨ small = "0" then 0
  else if small = "" ∨ small = "error" ∨ small = "1" then Level.error.rank
  else if small = "warn" ∨ small = "2" then Level.warn.rank
  else if small = "info" ∨ small = "3" then Level.info.rank
  else if small = "debug" ∨ small = "4" then Level.debug.rank
  else if small = "trace" ∨ small = "5" then Level.trace.rank
  else 0

/-- The least important rank of notices that the log shows. The environment decides before the
options; these begin at warnings. -/
def logRank (env : Environment) (verbosity : Nat) : Nat :=
  match env.logLevel with
  | some name => rankOfLevel name
  | none => min Level.trace.rank (Level.warn.rank + verbosity)

/-- Reads the database at a path, given what the path answers. -/
def readDatabase (path : String) (content : Except FileFault String) : Logged Failure Database := do
  Logged.note (.loading path)
  (Database.ofFile path content).mapFault .database

/-- Reads the text of the query, from a file if one is named. -/
def queryText {m : Type → Type} [Monad m] (sources : Sources m) (input : Option String) :
    m (Except Failure String) := do
  match input with
  | some path =>
    let content ← sources.file path
    return content.mapError (.queryFile path)
  | none =>
    let content ← sources.standardInput
    return content.mapError .standardInput

/-- Ranks a database against the text of a query. -/
def rankQuery (d : Database) (text : String) (limit : Nat) : Logged Failure (List Ranked) := do
  let query ← (Query.ofText text).mapFault .query
  Logged.note (.queryRead query.observations.length)
  (d.bestMatches query.observations limit).mapFault .scoring

/-- Carries out a command and gives what it prints. -/
def carryOut {m : Type → Type} [Monad m] (sources : Sources m) (env : Environment)
    (command : Command) (s : Settings) : m (Logged Failure String) := do
  let path := databasePath env s
  let content ← sources.file path
  let database := readDatabase path content
  match command, database.outcome with
  | _, .error fault => return ⟨database.notices, .error fault⟩
  | .check, .ok _ => return do
    let d ← database
    return Report.contents path d
  | .rank, .ok _ =>
    let text ← queryText sources s.input
    return do
      let d ← database
      let text ← Logged.ofExcept text
      let ms ← rankQuery d text (s.top.getD defaultLimit)
      return Report.inFormat (s.format.getD .text) ms

/-- What a command that was carried out leaves behind. -/
def Outcome.ofLogged (rank : Nat) (x : Logged Failure String) : Outcome :=
  let log := x.notices.filter fun notice => notice.level.rank ≤ rank
  match x.outcome with
  | .ok output => ⟨0, output, "", log⟩
  | .error failure => ⟨1, "", failure.report, log⟩

/-- The version that the program reports. -/
def version : String := "0.1.0"

/-- Answers a command line. -/
def run {m : Type → Type} [Monad m] (sources : Sources m) (env : Environment)
    (args : List String) : m Outcome := do
  match request? args with
  | none => return ⟨2, "", "", []⟩
  | some .version => return ⟨0, "osmatch " ++ version ++ "\n", "", []⟩
  | some (.run command settings) =>
    let result ← carryOut sources env command settings
    return Outcome.ofLogged (logRank env settings.verbosity) result

end OsDetection.CommandLine
