import ControlProps.Schema.Basic

/-!
# Composition of schemas

An object schema may be laid over others. The first layer that declares a property decides on it;
what is required and whether other keys are allowed is up to the uppermost layer alone.
-/

namespace ControlProps.Schema

variable [PatternEngine]

/-- The properties with those of a lower layer added that are not declared yet. -/
def addMissing (declared : List (String × Schema)) (lower : List (String × Schema)) :
    List (String × Schema) :=
  lower.foldl (fun properties entry =>
    if Entries.hasKey entry.1 properties then properties else properties ++ [entry]) declared

/-- A schema over lower layers. Only objects compose: other layers add nothing. -/
def compose (base : Schema) (layers : List Schema) : Schema :=
  match base with
  | object properties required additional =>
    object ((layers.filterMap properties?).foldl addMissing properties) required additional
  | other => other

end ControlProps.Schema
