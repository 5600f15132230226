import FieldClock.Proofs.Command.Output
import FieldClock.Proofs.Json

/-!
# A stream of reports

A report as JSON is one line, and whoever reads the line as JSON knows all that the report has to tell. A run writes the lines of
its targets one after another, in their order.
-/

namespace FieldClock

open Text

/-! ### What a line tells -/

namespace Report

end Report

/-! ### What a run writes -/

section
variable (reports : List Report)

end

namespace Command

end Command

end FieldClock
