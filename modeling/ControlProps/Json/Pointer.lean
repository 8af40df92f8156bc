import ControlProps.Json.Basic
import ControlProps.Binary64.Text
import ControlProps.Text.Parts

/-!
# JSON pointers

A pointer is the list of keys and indices that lead from a value to one of its parts. In its
written form each of them follows a slash; `~` and `/` in them are written `~0` and `~1`.
-/

namespace ControlProps

/-- The way from a JSON value to one of its parts. -/
abbrev Pointer := List String

namespace Pointer

/-- The written form of the characters of a token. -/
def escape : List Char → List Char
  | [] => []
  | '~' :: rest => '~' :: '0' :: escape rest
  | '/' :: rest => '~' :: '1' :: escape rest
  | c :: rest => c :: escape rest

/-- The characters that a token in written form stands for. -/
def unescape : List Char → List Char
  | [] => []
  | '~' :: '0' :: rest => '~' :: unescape rest
  | '~' :: '1' :: rest => '/' :: unescape rest
  | c :: rest => c :: unescape rest

/-- The written form of a pointer. -/
def toText (pointer : Pointer) : String :=
  String.join (pointer.map fun token => "/" ++ String.ofList (escape token.toList))

/-- The pointer with the given written form. -/
def ofText? (text : String) : Option Pointer :=
  match text.toList with
  | [] => some []
  | '/' :: rest => some ((partsBetween '/' rest).map fun token => String.ofList (unescape token))
  | _ => none

/-- The index that a token spells: digits without leading zeros. -/
def index? (token : String) : Option Nat :=
  match token.toList with
  | [] => none
  | ['0'] => some 0
  | '0' :: _ => none
  | digits => if digits.all Char.isDigit then some (digitsValue digits) else none

/-- One step into a value. -/
def step? (token : String) : Json → Option Json
  | .object members => members.lookup token
  | .array items => (index? token).bind fun index => items[index]?
  | _ => none

/-- The part of a value that a pointer leads to. -/
def resolve? : Pointer → Json → Option Json
  | [], value => some value
  | token :: rest, value => (step? token value).bind (resolve? rest)

end Pointer

end ControlProps
