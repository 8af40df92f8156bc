import ControlProps.Schema.Basic

/-!
# Catalogs

A catalog lists controls in order, each with the schema that it declares itself and with hints at
properties that this schema leaves out.
-/

namespace ControlProps

variable [PatternEngine]

/-- What a catalog says about one control. -/
structure Control where
  schema : Schema
  hints : List String

/-- The controls of a catalog by type. -/
structure Catalog where
  controls : List (String × Control)

namespace Catalog

/-- The catalog without controls. -/
def empty : Catalog := ⟨[]⟩

/-- Adds a control, or replaces the one of that type at its place. -/
def insert (catalog : Catalog) (type : String) (control : Control) : Catalog :=
  ⟨Entries.set catalog.controls type control⟩

/-- The control of a type. -/
def control? (catalog : Catalog) (type : String) : Option Control := catalog.controls.lookup type

/-- The schema that a control declares, before the shared layers. -/
def schema? (catalog : Catalog) (type : String) : Option Schema :=
  (catalog.control? type).map Control.schema

/-- The hints of a control; none for an unknown one. -/
def hints (catalog : Catalog) (type : String) : List String :=
  ((catalog.control? type).map Control.hints).getD []

/-- The types of the controls in order. -/
def types (catalog : Catalog) : List String := Entries.keys catalog.controls

/-- The number of controls. -/
def size (catalog : Catalog) : Nat := catalog.controls.length

end Catalog

end ControlProps
