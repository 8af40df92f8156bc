import ControlProps.Geometry.Frame
import ControlProps.Geometry.Padding
import ControlProps.Geometry.Transform

/-!
# Normalization of properties

Each geometry property has a normalizer, which brings its value into a canonical shape. Coercion of
a bag applies them under the keys they belong to, drops `null` entries and copies all else.
-/

namespace ControlProps

/-- The ways to bring a value into canonical shape. -/
inductive Normalizer where
  | dimension
  | padding
  | alignment
  | offset
  | scale
  | skew
  | colorMatrix
  | frame
  deriving DecidableEq

namespace Normalizer

/-- The value of the canonical shape; `null` has none. Only frames can be `strict`. -/
def apply (normalizer : Normalizer) (strict : Bool) (value : Value) :
    Except CoercionError (Option Value) :=
  match normalizer with
  | dimension => (Dimension.ofValue value).map (·.map Dimension.toValue)
  | padding => (Padding.ofValue value).map (·.map Padding.toValue)
  | alignment => (Alignment.ofValue value).map (·.map Alignment.toValue)
  | offset => (Offset.ofValue value).map (·.map Offset.toValue)
  | scale => (AxisAmount.ofValue .scale value).map (·.map AxisAmount.toValue)
  | skew => (AxisAmount.ofValue .skew value).map (·.map AxisAmount.toValue)
  | colorMatrix => (ColorMatrix.ofValue value).map (·.map ColorMatrix.toValue)
  | frame => (Frame.ofValue strict value).map (some ∘ Frame.toValue)

/-- The normalizer of a geometry property. -/
def ofKey? (key : String) : Option Normalizer :=
  if ["width", "height", "min_width", "min_height", "max_width", "max_height"].contains key then
    some dimension
  else if ["padding", "margin", "content_padding"].contains key then some padding
  else if ["alignment", "content_alignment"].contains key then some alignment
  else if ["offset", "translate", "origin", "pivot"].contains key then some offset
  else if key = "scale" then some scale
  else if key = "skew" then some skew
  else if key = "color_matrix" then some colorMatrix
  else if key = "frame" then some frame
  else none

/-- The normalizer that a property is subject to: under `frame`, only objects are. -/
def ofProperty? (key : String) (value : Value) : Option Normalizer :=
  match ofKey? key with
  | some frame => if value.object?.isSome then some frame else none
  | other => other

end Normalizer

namespace PropertyBag

/-- One property in canonical shape. -/
def coerceProperty (key : String) (value : Value) : Except CoercionError (Option Value) :=
  match Normalizer.ofProperty? key value with
  | some normalizer => (normalizer.apply false value).mapError (.atProperty key)
  | none => .ok (some value)

/-- The bag in canonical shape: geometry normalized, `null` dropped, everything else copied. -/
def coerce : PropertyBag → Except CoercionError PropertyBag
  | [] => .ok []
  | (key, value) :: rest =>
    if value.isNull then coerce rest
    else do
      let coerced ← coerceProperty key value
      let others ← coerce rest
      return coerced.toList.map (key, ·) ++ others

end PropertyBag

end ControlProps
