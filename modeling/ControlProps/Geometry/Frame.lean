import ControlProps.Geometry.Dimension
import ControlProps.Geometry.Offset

/-!
# Frames

The geometry of a child that is placed inside a frame: an ordered table in which only the known
keys take part.
-/

namespace ControlProps

/-- What a key of a frame stands for. -/
inductive FrameRole where
  | dimension
  | alignment
  | layer
  deriving DecidableEq

/-- The role of a key, if it is known. -/
def FrameRole.ofKey? (key : String) : Option FrameRole :=
  if ["left", "top", "right", "bottom", "width", "height", "x", "y"].contains key then
    some dimension
  else if ["anchor", "alignment"].contains key then some alignment
  else if ["z", "z_index"].contains key then some layer
  else none

/-- One entry of a frame. -/
inductive FrameEntry where
  | dimension (dimension : Dimension)
  | alignment (alignment : Alignment)
  | layer (z : Binary64)
  deriving DecidableEq

namespace FrameEntry

/-- The value of an entry. -/
def toValue : FrameEntry → Value
  | dimension size => size.toValue
  | alignment place => place.toValue
  | layer z => .float z

/-- The entry that a value stands for in a role; `null` stands for none. -/
def ofValue (role : FrameRole) (value : Value) : Except CoercionError (Option FrameEntry) :=
  match role with
  | .dimension => (Dimension.ofValue value).map (·.map dimension)
  | .alignment => (Alignment.ofValue value).map (·.map alignment)
  | .layer => (value.toNumber .frame).map (some ∘ layer)

end FrameEntry

/-- The geometry of a child inside a frame. -/
structure Frame where
  entries : List (String × FrameEntry)
  deriving DecidableEq

namespace Frame

/-- The value of a frame. -/
def toValue (frame : Frame) : Value :=
  .object (frame.entries.map fun (key, entry) => (key, entry.toValue))

/-- The entries under known keys and the unknown keys, in order; `null` entries are left out. -/
def sortEntries : PropertyBag → Except CoercionError (List (String × FrameEntry) × List String)
  | [] => .ok ([], [])
  | (key, value) :: rest =>
    if value.isNull then sortEntries rest
    else
      match FrameRole.ofKey? key with
      | some role => do
        let entry ← FrameEntry.ofValue role value
        let (entries, unknown) ← sortEntries rest
        return (entry.toList.map (key, ·) ++ entries, unknown)
      | none => do
        let (entries, unknown) ← sortEntries rest
        return (entries, key :: unknown)

/-- The frame that a value stands for. Unknown keys are refused if `strict`, else dropped. -/
def ofValue (strict : Bool) : Value → Except CoercionError Frame
  | .null => .ok ⟨[]⟩
  | .object entries => do
    let (known, unknown) ← sortEntries entries
    if strict ∧ unknown ≠ [] then throw (.unknownKeys .frame unknown)
    return ⟨known⟩
  | other => .error (.wrongKind .frame other.kind)

end Frame

end ControlProps
