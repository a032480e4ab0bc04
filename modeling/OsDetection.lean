import OsDetection.Text.Blank
import OsDetection.Text.Split
import OsDetection.Text.Printable
import OsDetection.Text.Quoted
import OsDetection.Text.Shielded
import OsDetection.Numeral.Digits
import OsDetection.Numeral.Places
import OsDetection.Numeral.Shortest
import OsDetection.Observation
import OsDetection.Response
import OsDetection.Logged
import OsDetection.Entry
import OsDetection.Fault
import OsDetection.Fingerprint
import OsDetection.Database.Reader
import OsDetection.Query.Reader
import OsDetection.Ranking
import OsDetection.Database.File
import OsDetection.Json.Decode
import OsDetection.CommandLine.Session
import OsDetection.Database.Printer
import OsDetection.Main
import OsDetection.Proofs.Query.Grammar
import OsDetection.Proofs.Database.Legal
import OsDetection.Proofs.Database.Blocks
import OsDetection.Proofs.Numeral.Rounding
import OsDetection.Proofs.Points
import OsDetection.Proofs.HighestScore
import OsDetection.Proofs.Resemblance
import OsDetection.Proofs.Silence
import OsDetection.Proofs.Patterns
import OsDetection.Proofs.Steps
import OsDetection.Proofs.Database.Boundaries
import OsDetection.Proofs.Database.Layout
import OsDetection.Proofs.Database.SharedEntries
import OsDetection.Proofs.Ranking
import OsDetection.Proofs.Independence
import OsDetection.Proofs.Rearranged
import OsDetection.Proofs.Spellings
import OsDetection.Proofs.Database.Canonical
import OsDetection.Proofs.FullMatch
import OsDetection.Proofs.Database.TablePosition
import OsDetection.Proofs.Database.Blame
import OsDetection.Proofs.Query.Faults
import OsDetection.Proofs.Query.Views
import OsDetection.Proofs.Reports
import OsDetection.Proofs.CommandLine
import OsDetection.Proofs.Informational
import OsDetection.Proofs.ScanGroups
import OsDetection.Proofs.WrittenPatterns
import OsDetection.Proofs.Entries
import OsDetection.Proofs.Database.Shorthand
import OsDetection.Proofs.Database.TableText
