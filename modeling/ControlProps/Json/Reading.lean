import ControlProps.Json.Basic

/-!
# Readings

A reading of a text is its JSON tree together with the places of its parts. A text that is not
JSON has a reading too: the tree up to the first fault, with the fault where the tree breaks off.
So what is wrong with the form of a text and what is wrong with the data in it are found in one
walk, in the order of the text.
-/

namespace ControlProps

/-- A place in a text: its line, counted from one, and the bytes before it on that line. -/
structure Position where
  line : Nat
  column : Nat
  deriving DecidableEq, Inhabited

namespace Position

/-- The beginning of a text. -/
def start : Position := ⟨1, 0⟩

/-- The place `width` bytes on, past (part of) the given character. -/
def past (c : Char) (width : Nat) (position : Position) : Position :=
  if c = '\n' then ⟨position.line + 1, 0⟩ else ⟨position.line, position.column + width⟩

/-- The place behind a character. -/
def after (c : Char) (position : Position) : Position := position.past c c.utf8Size

/-- The place behind the first byte of a character. -/
def afterByte (c : Char) (position : Position) : Position := position.past c 1

/-- The place behind a run of characters. -/
def afterAll (text : List Char) (position : Position) : Position :=
  text.foldl (fun place c => place.after c) position

/-- The place after that many bytes of a text, if it has so many. -/
def afterBytes? : Nat → List Char → Position → Option Position
  | 0, _, position => some position
  | _ + 1, [], _ => none
  | count + 1, c :: rest, position =>
    if count + 1 < c.utf8Size then some (position.past c (count + 1))
    else afterBytes? (count + 1 - c.utf8Size) rest (position.after c)

end Position

/-- What can be wrong with the form of a JSON text. -/
inductive Fault where
  | valueExpected
  | wordExpected
  | colonExpected
  | listCommaOrEndExpected
  | objectCommaOrEndExpected
  | keyMustBeString
  | valueUnfinished
  | stringUnfinished
  | listUnfinished
  | objectUnfinished
  | trailingComma
  | trailingCharacters
  | invalidNumber
  | numberOutOfRange
  | invalidEscape
  | loneLeadingSurrogate
  | unexpectedEndOfHexEscape
  | controlCharacter
  | recursionLimit
  deriving DecidableEq

/-- The wording of a fault. -/
def Fault.message : Fault → String
  | valueExpected => "expected value"
  | wordExpected => "expected ident"
  | colonExpected => "expected `:`"
  | listCommaOrEndExpected => "expected `,` or `]`"
  | objectCommaOrEndExpected => "expected `,` or `\x7d`"
  | keyMustBeString => "key must be a string"
  | valueUnfinished => "EOF while parsing a value"
  | stringUnfinished => "EOF while parsing a string"
  | listUnfinished => "EOF while parsing a list"
  | objectUnfinished => "EOF while parsing an object"
  | trailingComma => "trailing comma"
  | trailingCharacters => "trailing characters"
  | invalidNumber => "invalid number"
  | numberOutOfRange => "number out of range"
  | invalidEscape => "invalid escape"
  | loneLeadingSurrogate => "lone leading surrogate in hex escape"
  | unexpectedEndOfHexEscape => "unexpected end of hex escape"
  | controlCharacter => "control character (\\u0000-\\u001F) found while parsing a string"
  | recursionLimit => "recursion limit exceeded"

/-- The words that name a place at the end of a message. -/
def Position.suffix (position : Position) : String :=
  s!" at line {position.line} column {position.column}"

/-- One step into a value; the key is unknown where a text breaks off between two members. -/
inductive PathStep where
  | key (key : String)
  | index (index : Nat)
  | unknownKey
  deriving DecidableEq

/-- The steps from a whole value to one of its parts. -/
abbrev DataPath := List PathStep

namespace DataPath

/-- One step; a step to a key has a dot before it unless it is the first one. -/
def stepText (first : Bool) : PathStep → String
  | .key key => if first then key else "." ++ key
  | .index index => s!"[{index}]"
  | .unknownKey => if first then "?" else ".?"

/-- The steps in order; a dot stands for the whole value. -/
def toText : DataPath → String
  | [] => "."
  | step :: rest => stepText true step ++ String.join (rest.map (stepText false))

end DataPath

/-- A fault with its place in the text. -/
structure FaultAt where
  fault : Fault
  position : Position
  deriving DecidableEq

/-- The wording of a fault and of its place. -/
def FaultAt.message (found : FaultAt) : String := found.fault.message ++ found.position.suffix

/-- A fault with the way to the value that it is in. -/
structure FaultOnPath where
  path : DataPath
  found : FaultAt
  deriving DecidableEq

/-- The same fault seen from one level further up. -/
def FaultOnPath.under (step : PathStep) (fault : FaultOnPath) : FaultOnPath :=
  { fault with path := step :: fault.path }

/-- A JSON value without parts. -/
inductive Atom where
  | null
  | bool (value : Bool)
  | int (value : Int)
  | float (value : Binary64)
  | string (value : String)
  deriving DecidableEq

/-- An atom as a JSON value. -/
def Atom.toJson : Atom → Json
  | null => .null
  | bool value => .bool value
  | int value => .int value
  | float value => .float value
  | string value => .string value

/-- How an array or object ends: with its closing bracket or with a fault between its parts. -/
inductive Ending where
  | closed (stop : Position)
  | broken (found : FaultAt)
  deriving DecidableEq

/-- The key of a member, and the place after the blanks and the closing brace that may follow it. -/
structure Key where
  text : String
  after : Position
  deriving DecidableEq

/-- A JSON tree with places; `broken` stands for a value that is not well-formed. -/
inductive Reading where
  | atom (value : Atom) (start stop : Position)
  | array (start : Position) (items : List Reading) (ending : Ending)
  | object (start : Position) (members : List (Key × Reading)) (ending : Ending)
  | broken (start : Position) (found : FaultAt)

namespace Reading

/-- Where a value begins. -/
def start : Reading → Position
  | atom _ start _ | array start _ _ | object start _ _ | broken start _ => start

mutual

/-- The reading of a value that was not read from a text; its places mean nothing. -/
def ofJson : Json → Reading
  | .null => atom .null default default
  | .bool value => atom (.bool value) default default
  | .int value => atom (.int value) default default
  | .float value => atom (.float value) default default
  | .string value => atom (.string value) default default
  | .array items => array default (ofItems items) (.closed default)
  | .object members => object default (ofMembers members) (.closed default)

/-- The readings of items. -/
def ofItems : List Json → List Reading
  | [] => []
  | item :: rest => ofJson item :: ofItems rest

/-- The readings of members. -/
def ofMembers : List (String × Json) → List (Key × Reading)
  | [] => []
  | (key, value) :: rest => (⟨key, default⟩, ofJson value) :: ofMembers rest

end

end Reading

end ControlProps
