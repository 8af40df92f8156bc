import ControlProps.Proofs.Except
import ControlProps.Proofs.Pairing
import ControlProps.Proofs.Schema.Dialect

/-!
# What readers have read

Where reading succeeds, the document is well-formed as far as it was read. This says for each reader
what it then has found, in terms of look-ups in the document.
-/

namespace ControlProps

namespace Schema

variable {members : List (String × Json)}

variable [PatternEngine] {schema : Schema}

end Schema

end ControlProps
