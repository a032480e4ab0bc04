import OsDetection.Text.Split

/-!
# Files

Reading a file gives a text or one of a few faults. A `Directory` is what a working directory holds;
`Directory.read` says what reading a path there answers, walking from component to component: every
component but the last has to be a directory, and so has the last if a slash follows it.
-/

namespace OsDetection

open OsDetection.Text

/-- Why a path gives no text. -/
inductive FileFault where
  | missing
  | directory
  /-- A component before the last is a file. -/
  | notDirectory
  /-- The content is not UTF-8. -/
  | notText
  /-- Any other reason the system gives. -/
  | refused (reason : String)
  deriving DecidableEq, Repr

def FileFault.message : FileFault → String
  | missing => "No such file or directory (os error 2)"
  | directory => "Is a directory (os error 21)"
  | notDirectory => "Not a directory (os error 20)"
  | notText => "stream did not contain valid UTF-8"
  | refused reason => reason

/-- The text that bytes encode. -/
def decodeText (bytes : ByteArray) : Except FileFault String :=
  match String.fromUTF8? bytes with
  | some text => .ok text
  | none => .error .notText

/-- A file or a directory without regard to what the directory holds. -/
inductive Node where
  | file (content : ByteArray)
  | directory

/-- The files and empty directories below a directory, each with the names that lead to it. -/
structure Directory where
  nodes : List (List String × Node)

namespace Directory

/-- A place reached on a path. Nothing is known of the places outside, except that the way up from
each leads outside again. -/
inductive Spot where
  | inside (names : List String)
  | outside
  deriving DecidableEq, Repr

/-- What stands at a place. Every directory on the way to a node exists. -/
def node? (d : Directory) : Spot → Option Node
  | .outside => some .directory
  | .inside names =>
    if names = [] then some .directory
    else
      match d.nodes.find? (·.1 = names) with
      | some entry => some entry.2
      | none => if d.nodes.any fun entry => names.isPrefixOf entry.1 then some .directory else none

/-- The place that a component leads to. A name has at most 255 bytes. -/
def enter (d : Directory) (spot : Spot) (component : String) : Except FileFault Spot :=
  match d.node? spot with
  | none => .error .missing
  | some (.file _) => .error .notDirectory
  | some .directory =>
    if component = "" ∨ component = "." then .ok spot
    else if 255 < component.utf8ByteSize then
      .error (.refused "File name too long (os error 36)")
    else
      match spot, component with
      | .outside, ".." => .ok .outside
      | .outside, _ => .error .missing
      | .inside [], ".." => .ok .outside
      | .inside names, ".." => .ok (.inside names.dropLast)
      | .inside names, name => .ok (.inside (names ++ [name]))

/-- The components of a path. -/
def components (path : String) : List String :=
  (split '/' path.toList).map String.ofList

/-- The directory that holds these nodes, each at a relative path that goes straight to it. -/
def ofPaths (nodes : List (String × Node)) : Directory :=
  ⟨nodes.map fun node => ((components node.1).filter fun name => name ≠ "" ∧ name ≠ ".", node.2)⟩

/-- The bytes that reading a path answers. A path has at most 4095 bytes, none of them zero. -/
def readBytes (d : Directory) (path : String) : Except FileFault ByteArray := do
  if '\x00' ∈ path.toList then throw (.refused "file name contained an unexpected NUL byte")
  if path = "" then throw .missing
  if 4095 < path.utf8ByteSize then throw (.refused "File name too long (os error 36)")
  let start := if path.toList.head? = some '/' then .outside else .inside []
  let spot ← (components path).foldlM d.enter start
  match d.node? spot with
  | none => throw .missing
  | some .directory => throw .directory
  | some (.file content) => return content

/-- The text that reading a path answers. -/
def read (d : Directory) (path : String) : Except FileFault String := do
  let bytes ← d.readBytes path
  decodeText bytes

end Directory

end OsDetection
