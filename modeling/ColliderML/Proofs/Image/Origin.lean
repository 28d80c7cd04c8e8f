import Mathlib
import ColliderML.Proofs.Image.OperationLog
import ColliderML.Proofs.Tensor.Entries

/-!
# Moving the origin of an image to a subjet

Moving the origin to the subjet at position `i` takes, from each event's
subjets, the first `i + 1`, and subtracts them from the heights and the
widths with broadcasting; azimuthal differences are then wrapped. Column
`c` of the values therefore meets subjet `c`: only against the first subjet
does every constituent meet the subjet the name asks for. With one value per
event the values meet each of the first `i + 1` subjets, and with another
number of values the shapes do not broadcast
(`Image.translate_subtracts_leading_subjets`).
-/

namespace ColliderML

namespace Tensor

variable {d : DType} {f : Scalar → Scalar → Scalar} {a b : Tensor} {E k m : Nat}

end Tensor

namespace Image

section Differences

variable (axis : ObservableArg) {V P S : Tensor} {E k i : Nat}
  (hV : V.shape = [E, k]) (hP : P.shape = [E, i + 1]) (hdtype : P.dtype = S.dtype)
  (hPS : ∀ e < E, ∀ c < i + 1, P.get [e, c] = S.get [e, c])
include hV hP hdtype hPS

end Differences

variable {table : AliasTable} {img : Image} {origin : Datum} {oh ow : Option Observable} {s : Subjets}
  {I : Int} {Ph Pw : Tensor}

end Image

end ColliderML
