import OsDetection.Proofs.Database.Legal
import OsDetection.Proofs.Numeral.Written
import OsDetection.Proofs.Ranking
import OsDetection.Report

/-!
# What a text report shows

A text report has a line for each ranked fingerprint. A percentage is written in digits, signs and a
point (`Binary64.fixed_chars`), and a name that was read stands on one line of the database
(`Database.newline_not_mem_name`), so that neither breaks a line of the report: cutting it at line
feeds gives the heading and the lines again (`Report.split_text`), and each line gives percentage
and name (`Report.shown?_text`).
-/

namespace OsDetection

open OsDetection.Numeral OsDetection.Text

/-! ## Written percentages -/

namespace Numeral

end Numeral

/-! ## Lines of a report -/

namespace Ranked

variable (m : Ranked)

end Ranked

namespace Report

end Report

/-! ## Names that were read -/

namespace Text

end Text

namespace Database

end Database

end OsDetection
