import OsDetection.Database.Reader
import OsDetection.Directory

/-!
# Database files

Whatever goes wrong with a database from a named source, be it the file or its text, is reported
with the name of the source.
-/

namespace OsDetection

namespace Database

/-- What can be wrong with a source. -/
inductive Cause where
  | file (fault : FileFault)
  | text (fault : Fault)
  deriving DecidableEq, Repr

def Cause.message : Cause → String
  | file fault => "I/O error: " ++ fault.message
  | text fault => fault.message

/-- What is wrong with a source, and its name. -/
structure SourceFault where
  source : String
  cause : Cause
  deriving DecidableEq, Repr

def SourceFault.message (f : SourceFault) : String :=
  f.source ++ ": " ++ f.cause.message

/-- Reads a database from a named source. -/
def ofSource (source text : String) : Logged SourceFault Database :=
  (ofText source text).mapFault fun fault => ⟨source, .text fault⟩

/-- Reads a database from what reading its file answered. -/
def ofFile (path : String) (content : Except FileFault String) : Logged SourceFault Database :=
  match content with
  | .ok text => ofSource path text
  | .error fault => Logged.fail ⟨path, .file fault⟩

end Database

end OsDetection
