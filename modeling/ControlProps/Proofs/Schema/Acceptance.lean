import ControlProps.Engine.Patterns
import ControlProps.Proofs.Json.Parts
import ControlProps.Proofs.Schema.Emission
import ControlProps.Proofs.Schema.Readers
import ControlProps.Proofs.Validation.Conformance
import Mathlib.Logic.Equiv.Fin.Basic

/-!
# What documents mean

`Dialect.Accepts` says which values a document of the dialect accepts, in terms of the document
alone. A schema that is read from a document describes the same values.
-/

namespace ControlProps

namespace Dialect

variable [PatternEngine]

/-- The schemas that `properties` declares, by key. -/
def declared (members : List (String × Json)) : List (String × Json) :=
  ((members.lookup "properties").bind Json.object?).getD []

omit [PatternEngine] in
/-- The kinds differ in their names. -/
@[simp] theorem name_eq_name_iff {a b : Kind} : a.name = b.name ↔ a = b := by
  refine ⟨fun h => ?_, congrArg _⟩
  have hfound : Kind.ofName? a.name = Kind.ofName? b.name := congrArg _ h
  simpa using hfound

variable {strict : Bool} {members : List (String × Json)} {value : Value}

section SingleType

variable (hany : members.lookup "anyOf" = none) (hone : members.lookup "oneOf" = none)
  (henum : members.lookup "enum" = none)

include hany hone henum

end SingleType

end Dialect

namespace Schema

open Dialect

section

variable [PatternEngine] {strict : Bool} {members : List (String × Json)} {schema : Schema}
  {value : Value}

end

end Schema

end ControlProps
