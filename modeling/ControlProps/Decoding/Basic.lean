import ControlProps.Decoding.Error
import ControlProps.Value

/-!
# Decoding of plain data

Texts, small numbers, lists and maps are taken from a reading in the order of the text, so the
first thing that is wrong is the one that is told.
-/

namespace ControlProps

namespace Reading

/--
The error of a reading that has not the expected type. The place of an atom is behind it, that of an
array or object before it.
-/
def misfit (reading : Reading) (expected : String) : DecodeError :=
  match reading with
  | atom value _ stop => ⟨[], .invalidType (.atom value) expected, some stop⟩
  | array start _ _ => ⟨[], .invalidType .sequence expected, some start⟩
  | object start _ _ => ⟨[], .invalidType .map expected, some start⟩
  | broken _ found => .ofFault ⟨[], found⟩

/-- The end of a list, which must not be a fault. -/
def checkListEnd : Ending → Except DecodeError Position
  | .closed stop => .ok stop
  | .broken found => .error (.ofFault ⟨[], found⟩)

/-- The end of an object, which must not be a fault; a fault is that of a key not known. -/
def checkObjectEnd : Ending → Except DecodeError Position
  | .closed stop => .ok stop
  | .broken found => .error (.ofFault ⟨[.unknownKey], found⟩)

/-- Any value. -/
def decodeJson (reading : Reading) : Except DecodeError Json := reading.toJson.mapError .ofFault

/-- A text. -/
def decodeText : Reading → Except DecodeError String
  | atom (.string value) _ _ => .ok value
  | other => .error (other.misfit "a string")

/-- An integer of eight bits. -/
def decodeByte : Reading → Except DecodeError Nat
  | atom (.int value) _ stop =>
    if 0 ≤ value ∧ value < 256 then .ok value.toNat
    else .error ⟨[], .invalidValue (.atom (.int value)) "u8", some stop⟩
  | other => .error (other.misfit "u8")

/-- Each element, the first of which stands at the given index. -/
def decodeElements {α : Type} (decode : Reading → Except DecodeError α) (index : Nat) :
    List Reading → Except DecodeError (List α)
  | [] => .ok []
  | item :: rest => do
    let value ← (decode item).mapError (.under (.index index))
    let values ← decodeElements decode (index + 1) rest
    return value :: values

/-- A list. -/
def decodeList {α : Type} (decode : Reading → Except DecodeError α) :
    Reading → Except DecodeError (List α)
  | array _ items ending => do
    let values ← decodeElements decode 0 items
    let _ ← checkListEnd ending
    return values
  | other => .error (other.misfit "a sequence")

/-- Each member. -/
def decodeMembers {α : Type} (decode : Reading → Except DecodeError α) :
    List (Key × Reading) → Except DecodeError (List (String × α))
  | [] => .ok []
  | (key, member) :: rest => do
    let value ← (decode member).mapError (.under (.key key.text))
    let values ← decodeMembers decode rest
    return (key.text, value) :: values

/-- A map; of a repeated key, the last value counts. -/
def decodeMap {α : Type} (decode : Reading → Except DecodeError α) :
    Reading → Except DecodeError (List (String × α))
  | object _ members ending => do
    let entries ← decodeMembers decode members
    let _ ← checkObjectEnd ending
    return Entries.ofList entries
  | other => .error (other.misfit "a map")

/-- A bag of properties. -/
def decodeBag (reading : Reading) : Except DecodeError PropertyBag :=
  reading.decodeMap fun member => member.decodeJson.map Value.ofJson

/-- Lists of small numbers by name, the names in ascending order. -/
def decodeByteLists (reading : Reading) : Except DecodeError (List (String × List Nat)) :=
  (reading.decodeMap (decodeList decodeByte)).map fun lists =>
    lists.mergeSort fun a b => a.1 ≤ b.1

end Reading

/-- Decodes the first value of a text; what follows it is left alone. -/
def decodeFirst {α : Type} (decode : Reading → Except DecodeError α) (text : String) :
    Except DecodeError α := decode (Reading.ofText text)

/-- Decodes a value that is not read from a text. -/
def decodeValue {α : Type} (decode : Reading → Except DecodeError α) (value : Json) :
    Except DecodeError α := (decode (Reading.ofJson value)).mapError .withoutPlace

end ControlProps
