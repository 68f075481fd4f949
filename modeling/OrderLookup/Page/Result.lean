import OrderLookup.Order.Fetch
import OrderLookup.Page.Location
import OrderLookup.Page.Render

/-!
# The result page

Loading the page takes two steps with the fetching of the order between them: `start` looks at the
order id, and `settle` at what came of fetching it. An id that is missing or invalid settles the
page at once.
-/

namespace OrderLookup.Page

inductive Phase where
  | idle
  | loading
  | result
  | error
  deriving DecidableEq

structure ResultPage where
  zone : Calendar.Zone
  surface : Surface
  phase : Phase
  deriving DecidableEq

/-- How a load starts: it is over already, or waits for an order. -/
inductive Start where
  | settled (page : ResultPage)
  | waiting (id : OrderId) (page : ResultPage)
  deriving DecidableEq

def missingIdMessage : String := "Order UID not specified in URL"

def errorEdits (message : String) : List Edit :=
  [.setVisible loading false, .setVisible result false, .setText errorMessage message,
    .setVisible error true]

def loadingEdits : List Edit :=
  [.setVisible error false, .setVisible result false, .setVisible loading true]

def resultEdits (zone : Calendar.Zone) (fetched : FetchedOrder) : List Edit :=
  renderEdits zone fetched.order fetched.milliseconds ++
    [.setVisible loading false, .setVisible result true]

namespace ResultPage

/-- A new page over a surface, whatever state it is in. -/
def fresh (zone : Calendar.Zone) (surface : Surface) : ResultPage :=
  ⟨zone, surface, .idle⟩

def enter (page : ResultPage) (phase : Phase) (edits : List Edit) : ResultPage :=
  { page with surface := page.surface.applyAll edits, phase }

def fail (page : ResultPage) (message : String) : ResultPage :=
  page.enter .error (errorEdits message)

def start (page : ResultPage) (uid : Option String) : Start :=
  match uid with
  | none => .settled (page.fail missingIdMessage)
  | some raw =>
    if raw.isEmpty then .settled (page.fail missingIdMessage)
    else
      match OrderId.parse raw with
      | .error e => .settled (page.fail e.message)
      | .ok id => .waiting id (page.enter .loading loadingEdits)

def settle (page : ResultPage) : FetchOutcome → ResultPage
  | .ok fetched => page.enter .result (resultEdits page.zone fetched)
  | .error e => page.fail e.message

def returned (page : ResultPage) : Phase × ResultPage :=
  (page.phase, page)

/-- Loads an order from a source and tells the phase that this leads to. The source is given the
page as it waits, which only an observer looks at. -/
def load {m : Type → Type} [Monad m] (source : ResultPage → OrderId → m FetchOutcome)
    (page : ResultPage) (uid : Option String) : m (Phase × ResultPage) :=
  match page.start uid with
  | .settled page => pure page.returned
  | .waiting id page => do
    let outcome ← source page id
    return (page.settle outcome).returned

def visit {m : Type → Type} [Monad m] (source : ResultPage → OrderId → m FetchOutcome)
    (page : ResultPage) (location : String) : m (Phase × ResultPage) :=
  page.load source (orderUid? location)

end ResultPage

end OrderLookup.Page
