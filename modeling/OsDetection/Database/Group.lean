import OsDetection.Fault
import OsDetection.Logged
import OsDetection.Pattern
import OsDetection.Response

/-!
# Groups of a reference fingerprint

The body of a group line is empty, if the probe gets no answer, or a list of entries separated by
`%`. The entry `R=N` alone says that the probe gets no answer, too; beside others it contradicts
them. Otherwise each entry gives its pattern to each of its tests, and where a test is given twice
the later pattern counts.
-/

namespace OsDetection

open OsDetection.Text

namespace Response

/-- One entry of a group body. -/
def entryOfText (line : Nat) (cs : List Char) : Except Fault Entry :=
  (Entry.ofText cs).mapError (.badEntry line (String.ofList cs))

/-- Gives a test its pattern. -/
def define (source : String) (line : Nat) (probe : Probe) (tests : TestMap Pattern)
    (pair : String × Pattern) : Logged Fault (TestMap Pattern) :=
  if probe.accepts pair.1 then do
    if tests.contains pair.1 then
      Logged.note (.repeatedTest source line pair.1 probe)
    return tests.insert pair.1 pair.2
  else
    Logged.fail (.unknownTest line probe pair.1)

/-- The response that a list of entries describes. `content` is the line they stand on. -/
def ofEntries (source : String) (line : Nat) (content : String) (probe : Probe)
    (entries : List Entry) : Logged Fault (Response Pattern) :=
  if entries.any (·.isSilence) then
    if entries.length = 1 then return .silent
    else Logged.fail (.malformedLine line content)
  else do
    let tests ← Logged.foldl (define source line probe) ∅ (entries.flatMap (·.pairs))
    return .answered tests

/-- The response that the body of a group line describes. -/
def ofBody (source : String) (line : Nat) (content : String) (probe : Probe) (body : List Char) :
    Logged Fault (Response Pattern) :=
  if body = [] then return .silent
  else do
    let entries ← Logged.ofExcept ((split '%' body).mapM (entryOfText line))
    ofEntries source line content probe entries

end Response

end OsDetection
