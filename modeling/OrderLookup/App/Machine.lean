import OrderLookup.App.Config
import OrderLookup.Calendar.ZoneRule

/-!
# The machine's zone
-/

namespace OrderLookup

/-- The zone that the environment gives for the machine, universal time if it gives none. -/
def machineZone (env : Environment) : Calendar.Zone :=
  ((env "TZ").bind Calendar.ZoneRule.read?).getD .utc

end OrderLookup
