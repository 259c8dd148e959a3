import DesiredState.Attributes
import DesiredState.Catalog
import DesiredState.Key
import DesiredState.Lifecycle

/-!
# Work orders

A work order is one request for reconciliation: an entry of the catalogue, the
resource, the target and the parameters.
-/

namespace DesiredState

/-- One request for reconciliation. -/
structure WorkOrder where
  /-- The name of the catalogue entry. -/
  entry : String
  /-- The type of a log destination. -/
  variety : Option String := none
  /-- The release of the device software. -/
  version : Option String := none
  name : Option String := none
  partition : String := defaultPartition
  target : Target := .present
  /-- The parameters, under logical names. -/
  params : Attributes := .empty
  /-- Whether only to report what would change. -/
  checkOnly : Bool := false
deriving Inhabited

namespace WorkOrder

/-- What selects the kind of resource within the entry. -/
def selector (order : WorkOrder) : Catalog.Selector :=
  ⟨order.variety, order.version⟩

end WorkOrder
end DesiredState
