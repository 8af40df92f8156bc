import ControlProps.Schema.Basic

/-!
# Shared schemas

The fragments of which the schemas of controls are made, and the layers that every control lies
over.
-/

namespace ControlProps

/-- The source of the pattern of dimension texts. -/
def SharedSchemas.dimensionSource : String :=
  "^[+-]?(?:\\d+(?:\\.\\d+)?|\\.\\d+)(?:%|px|vw|vh|vmin|vmax)?$"

/-- An engine that compiles the source of the pattern of dimension texts. -/
class SharedPatterns extends PatternEngine where
  /-- The compiled form of the source. -/
  dimension : Compiled
  dimension_compiles : compile? SharedSchemas.dimensionSource = some dimension

namespace SharedSchemas

variable [SharedPatterns]

/-- The pattern of dimension texts. -/
def dimensionPattern : Pattern :=
  ⟨dimensionSource, SharedPatterns.dimension, SharedPatterns.dimension_compiles⟩

/-- Objects that may hold anything. -/
def openObject : Schema := .openObject []

/-- An open object whose given keys are numbers. -/
def numbers (keys : List String) : Schema := .openObject (keys.map fun key => (key, .number))

/-- A list of at least so many numbers. -/
def numberList (least : UInt64) : Schema := .array .number (some least) none

/-- A number, the text of a color, or a map of channels. -/
def color : Schema :=
  .anyOf [.number, .string, numbers ["r", "g", "b", "a", "red", "green", "blue", "alpha"]]

/-- A number or a text with a unit. -/
def dimension : Schema := .anyOf [.number, .pattern dimensionPattern]

/-- A pair of numbers or a map of axes. -/
def offset : Schema := .anyOf [numberList 2, numbers ["x", "y"]]

/-- Four numbers or a map of sides. -/
def rect : Schema :=
  .anyOf [numberList 4, numbers ["x", "y", "left", "top", "width", "height"]]

/-- The name of a place or an offset. -/
def alignment : Schema := .anyOf [.string, offset]

/-- A number, a list of numbers, or a map of edges. -/
def padding : Schema :=
  .anyOf [.number, numberList 1, numbers ["left", "top", "right", "bottom"]]

/-- What scales and skews may be. -/
def axisTransform : Schema := .anyOf [.number, numberList 1, openObject]

/-- Twenty numbers or the name of a preset. -/
def colorMatrix : Schema := .anyOf [.array .number (some 20) (some 20), .string]

/-- The names of the axes. -/
def axis : Schema :=
  .enumeration [.string "horizontal", .string "vertical", .string "x", .string "y"]

/-- Size and room: what every control accepts. -/
def layout : Schema := .openObject [
  ("expand", .boolean),
  ("flex", .integer),
  ("width", dimension),
  ("height", dimension),
  ("min_width", dimension),
  ("min_height", dimension),
  ("max_width", dimension),
  ("max_height", dimension),
  ("padding", padding),
  ("margin", padding),
  ("alignment", alignment),
  ("animation", openObject)]

/-- Style, accessibility, focus and binding: what all controls share. -/
def universal : Schema := .openObject [
  ("events", .array .string none none),
  ("bgcolor", .any),
  ("background", .any),
  ("color", .any),
  ("text_color", .any),
  ("border_color", .any),
  ("border_width", .number),
  ("radius", .number),
  ("border_radius", .number),
  ("elevation", .number),
  ("opacity", .number),
  ("visible", .boolean),
  ("enabled", .boolean),
  ("disabled", .boolean),
  ("cursor", .string),
  ("tooltip", .any),
  ("style_pack", .string),
  ("style", openObject),
  ("variant", .anyOf [.string, openObject]),
  ("modifiers", .array .any none none),
  ("motion", .any),
  ("slots", openObject),
  ("state", .string),
  ("semantic_label", .string),
  ("role", .string),
  ("hint", .string),
  ("focusable", .boolean),
  ("autofocus", .boolean),
  ("tab_index", .integer),
  ("value", .any),
  ("default_value", .any),
  ("emit_on_change", .boolean),
  ("debounce_ms", .integer),
  ("dirty", .boolean),
  ("touched", .boolean),
  ("error_text", .string),
  ("warnings", .array .any none none),
  ("status", .string)]

/-- The geometry of a child inside a frame. -/
def frameChild : Schema := .openObject [
  ("left", dimension),
  ("top", dimension),
  ("right", dimension),
  ("bottom", dimension),
  ("width", dimension),
  ("height", dimension),
  ("x", dimension),
  ("y", dimension),
  ("anchor", alignment),
  ("alignment", alignment),
  ("z", .number),
  ("z_index", .number)]

/-- Any value under each hinted key. -/
def catchAll (hints : List String) : Schema :=
  .openObject ((Entries.distinct hints).map fun key => (key, .any))

end SharedSchemas

end ControlProps
