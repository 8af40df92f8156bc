import ControlProps.Json.Number
import ControlProps.Json.Reading

/-!
# Reading JSON text

`Reading.ofText` reads the first value of a text; `Json.parse` reads a text that is one value and
nothing else. A repeated key keeps its first place and takes its last value.
-/

namespace ControlProps

/-- What is left of a text, and where it begins. -/
structure Cursor where
  rest : List Char
  position : Position

namespace Cursor

/-- A fault at the next byte: its place is behind that byte, if there is one. -/
def faultAtNext (cursor : Cursor) (fault : Fault) : FaultAt :=
  match cursor.rest with
  | [] => ⟨fault, cursor.position⟩
  | c :: _ => ⟨fault, cursor.position.afterByte c⟩

/-- Past the next character. -/
def tail (cursor : Cursor) : Cursor :=
  match cursor.rest with
  | [] => cursor
  | c :: rest => ⟨rest, cursor.position.after c⟩

/-- The blanks between tokens. -/
def isBlankBetween (c : Char) : Bool := c == ' ' || c == '\n' || c == '\t' || c == '\r'

/-- Past the blanks between tokens. -/
def skipBlanks (cursor : Cursor) : Cursor :=
  let blanks := cursor.rest.takeWhile isBlankBetween
  ⟨cursor.rest.dropWhile isBlankBetween, cursor.position.afterAll blanks⟩

/-- The digits ahead, and what is behind them. -/
def digits (cursor : Cursor) : List Char × Cursor :=
  let run := cursor.rest.takeWhile Char.isDigit
  (run, ⟨cursor.rest.dropWhile Char.isDigit, cursor.position.afterAll run⟩)

/-- A word whose first letter is read already: the remaining letters must follow. -/
def word (letters : List Char) (cursor : Cursor) : Except FaultAt Cursor :=
  match letters with
  | [] => .ok cursor
  | letter :: letters =>
    match cursor.rest with
    | [] => .error ⟨.valueUnfinished, cursor.position⟩
    | c :: rest =>
      if c = letter then word letters ⟨rest, cursor.position.after c⟩
      else .error ⟨.wordExpected, cursor.position.afterByte c⟩

end Cursor

/-- The value of a digit in base sixteen. -/
def hexDigit? (c : Char) : Option Nat :=
  if c.isDigit then some (c.toNat - '0'.toNat)
  else if 'a' ≤ c ∧ c ≤ 'f' then some (c.toNat - 'a'.toNat + 10)
  else if 'A' ≤ c ∧ c ≤ 'F' then some (c.toNat - 'A'.toNat + 10)
  else none

/-- The value of digits in base sixteen. -/
def hexValue? (digits : List Char) : Option Nat :=
  digits.foldlM (fun value digit => (hexDigit? digit).map (16 * value + ·)) 0

/-- The character that stands behind a backslash for another one. -/
def unescaped? : Char → Option Char
  | '"' => some '"'
  | '\\' => some '\\'
  | '/' => some '/'
  | 'b' => some '\x08'
  | 'f' => some '\x0c'
  | 'n' => some '\n'
  | 'r' => some '\r'
  | 't' => some '\t'
  | _ => none

/-- The first of a pair of code units that stand for one character. -/
def isLeadingUnit (unit : Nat) : Bool := 0xD800 ≤ unit && unit < 0xDC00

/-- The second of a pair of code units that stand for one character. -/
def isTrailingUnit (unit : Nat) : Bool := 0xDC00 ≤ unit && unit < 0xE000

/-- The character of a pair of code units. -/
def characterOfUnits (leading trailing : Nat) : Char :=
  Char.ofNat (0x10000 + (leading - 0xD800) * 0x400 + (trailing - 0xDC00))

/-- The fault of an escape whose four digits are cut short or are not all digits. -/
def hexFault (rest : List Char) (position : Position) : FaultAt :=
  match position.afterBytes? 4 rest with
  | some place => ⟨.invalidEscape, place⟩
  | none => ⟨.stringUnfinished, position.afterAll rest⟩

/-- The rest of a string behind its opening quote; `read` holds what is read of it, newest first. -/
def readString (text : List Char) (position : Position) (read : List Char) :
    Except FaultAt (String × Cursor) :=
  match text with
  | [] => .error ⟨.stringUnfinished, position⟩
  | '"' :: rest => .ok (String.ofList read.reverse, ⟨rest, position.after '"'⟩)
  | ['\\'] => .error ⟨.stringUnfinished, position.after '\\'⟩
  | '\\' :: 'u' :: a :: b :: c :: d :: rest =>
    let behind := position.afterAll ['\\', 'u']
    match hexValue? [a, b, c, d] with
    | none => .error (hexFault (a :: b :: c :: d :: rest) behind)
    | some unit =>
      let behind := behind.afterAll [a, b, c, d]
      if isTrailingUnit unit then .error ⟨.loneLeadingSurrogate, behind⟩
      else if isLeadingUnit unit then
        match rest with
        | '\\' :: 'u' :: e :: f :: g :: h :: rest =>
          let behind := behind.afterAll ['\\', 'u']
          match hexValue? [e, f, g, h] with
          | none => .error (hexFault (e :: f :: g :: h :: rest) behind)
          | some trailing =>
            let behind := behind.afterAll [e, f, g, h]
            if isTrailingUnit trailing then
              readString rest behind (characterOfUnits unit trailing :: read)
            else .error ⟨.loneLeadingSurrogate, behind⟩
        | '\\' :: 'u' :: rest => .error (hexFault rest (behind.afterAll ['\\', 'u']))
        | '\\' :: c :: _ => .error ⟨.unexpectedEndOfHexEscape, (behind.after '\\').afterByte c⟩
        | ['\\'] => .error ⟨.stringUnfinished, behind.after '\\'⟩
        | c :: _ => .error ⟨.unexpectedEndOfHexEscape, behind.afterByte c⟩
        | [] => .error ⟨.stringUnfinished, behind⟩
      else readString rest behind (Char.ofNat unit :: read)
  | '\\' :: 'u' :: rest => .error (hexFault rest (position.afterAll ['\\', 'u']))
  | '\\' :: c :: rest =>
    match unescaped? c with
    | some meant => readString rest ((position.after '\\').after c) (meant :: read)
    | none => .error ⟨.invalidEscape, (position.after '\\').afterByte c⟩
  | c :: rest =>
    if c.toNat < 32 then .error ⟨.controlCharacter, position.afterByte c⟩
    else readString rest (position.after c) (c :: read)

/-- The exponent that no number may exceed, however small its digits are. -/
def greatestExponent : Nat := 0x7FFFFFFF

/-- The digits of an exponent up to the first one with which it exceeds the greatest exponent. -/
def digitsUpToLimit (digits : List Char) : List Char :=
  let lengths := (List.range (digits.length + 1)).find? fun length =>
    greatestExponent < digitsValue (digits.take length)
  digits.take (lengths.getD digits.length)

/-- A number that is no integer of 64 bits, its digits read. -/
def finishFloat (negative : Bool) (decimal : Decimal) (cursor : Cursor) (overflow : Position) :
    Except FaultAt (Atom × Cursor) :=
  match decimal.scaledRank? with
  | some rank => .ok (.float (Binary64.ofRank negative rank), cursor)
  | none => .error ⟨.numberOutOfRange, overflow⟩

/-- The exponent of a number, its mark read, and so the end of the number. -/
def readExponent (negative : Bool) (whole fraction : List Char) (cursor : Cursor) :
    Except FaultAt (Atom × Cursor) :=
  let (signed, unsigned) : Option Bool × Cursor :=
    match cursor.rest with
    | '-' :: _ => (some true, cursor.tail)
    | '+' :: _ => (some false, cursor.tail)
    | _ => (none, cursor)
  let (digits, behind) := unsigned.digits
  if digits.isEmpty then
    if unsigned.rest.isEmpty then .error (unsigned.faultAtNext .valueUnfinished)
    else .error (unsigned.faultAtNext .invalidNumber)
  else
    let magnitude := digitsValue digits
    let exponent : Int := if signed = some true then -(magnitude : Int) else magnitude
    let overflow := unsigned.position.afterAll (digitsUpToLimit digits)
    finishFloat negative (Decimal.ofLeadingDigits whole fraction exponent) behind overflow

/-- What may follow the digits before the point of a number, and so the end of the number. -/
def readFraction (negative : Bool) (whole : List Char) (cursor : Cursor) :
    Except FaultAt (Atom × Cursor) :=
  match cursor.rest with
  | '.' :: _ =>
    let (fraction, behind) := cursor.tail.digits
    if fraction.isEmpty then
      if behind.rest.isEmpty then .error (behind.faultAtNext .valueUnfinished)
      else .error (behind.faultAtNext .invalidNumber)
    else
      match behind.rest with
      | 'e' :: _ | 'E' :: _ => readExponent negative whole fraction behind.tail
      | _ => finishFloat negative (Decimal.ofLeadingDigits whole fraction 0) behind behind.position
  | 'e' :: _ | 'E' :: _ => readExponent negative whole [] cursor.tail
  | _ =>
    let magnitude := digitsValue whole
    if negative then
      let value := -(magnitude : Int)
      if value < 0 ∧ Int64.minValue.toInt ≤ value then .ok (.int value, cursor)
      else finishFloat true (Decimal.ofLeadingDigits whole [] 0) cursor cursor.position
    else if magnitude < UInt64.size then .ok (.int magnitude, cursor)
    else finishFloat false (Decimal.ofLeadingDigits whole [] 0) cursor cursor.position

/--
A number behind its sign. An integer of at most 64 bits stays an integer; every other number, and
the negative zero, is read as a float.
-/
def readNumber (negative : Bool) (cursor : Cursor) : Except FaultAt (Atom × Cursor) :=
  let (whole, behind) := cursor.digits
  match whole with
  | [] =>
    if cursor.rest.isEmpty then .error (cursor.faultAtNext .valueUnfinished)
    else .error (cursor.faultAtNext .invalidNumber)
  | '0' :: _ :: _ => .error (cursor.tail.faultAtNext .invalidNumber)
  | _ => readFraction negative whole behind

/-- An atom; the cursor is at its first character. -/
def readAtom (cursor : Cursor) : Except FaultAt (Atom × Cursor) :=
  match cursor.rest with
  | [] => .error (cursor.faultAtNext .valueUnfinished)
  | '"' :: rest =>
    (readString rest (cursor.position.after '"') []).map fun (text, behind) =>
      (.string text, behind)
  | 'n' :: _ => (cursor.tail.word ['u', 'l', 'l']).map fun behind => (.null, behind)
  | 't' :: _ => (cursor.tail.word ['r', 'u', 'e']).map fun behind => (.bool true, behind)
  | 'f' :: _ => (cursor.tail.word ['a', 'l', 's', 'e']).map fun behind => (.bool false, behind)
  | '-' :: _ => readNumber true cursor.tail
  | c :: _ =>
    if c.isDigit then readNumber false cursor else .error (cursor.faultAtNext .valueExpected)

/-- Where the object of a key goes on: behind the blanks and the closing brace after the key. -/
def afterKey (cursor : Cursor) : Position :=
  let next := cursor.skipBlanks
  match next.rest with
  | '\x7d' :: _ => next.tail.position
  | _ => next.position

mutual

/--
A value and what is behind it, which is nothing where the reading breaks off. At most `levels`
arrays and objects may be nested. Every step of the reading takes some `fuel`.
-/
def readValue (fuel levels : Nat) (cursor : Cursor) : Reading × Option Cursor :=
  let cursor := cursor.skipBlanks
  match fuel with
  | 0 => (.broken cursor.position (cursor.faultAtNext .valueExpected), none)
  | fuel + 1 =>
    match cursor.rest, levels with
    | '[' :: _, 0 | '\x7b' :: _, 0 =>
      (.broken cursor.position (cursor.faultAtNext .recursionLimit), none)
    | '[' :: _, levels + 1 =>
      let (items, ending, behind) := readItems fuel levels true cursor.tail
      (.array cursor.position items ending, behind)
    | '\x7b' :: _, levels + 1 =>
      let (members, ending, behind) := readMembers fuel levels true cursor.tail
      (.object cursor.position members ending, behind)
    | _, _ =>
      match readAtom cursor with
      | .ok (value, behind) => (.atom value cursor.position behind.position, some behind)
      | .error found => (.broken cursor.position found, none)

/-- The items from here to the end of an array. -/
def readItems (fuel levels : Nat) (first : Bool) (cursor : Cursor) :
    List Reading × Ending × Option Cursor :=
  let cursor := cursor.skipBlanks
  match fuel with
  | 0 => ([], .broken (cursor.faultAtNext .valueExpected), none)
  | fuel + 1 =>
    let item (cursor : Cursor) : List Reading × Ending × Option Cursor :=
      match readValue fuel levels cursor with
      | (value, none) => ([value], .closed cursor.position, none)
      | (value, some behind) =>
        let (items, ending, behind) := readItems fuel levels false behind
        (value :: items, ending, behind)
    match cursor.rest with
    | [] => ([], .broken (cursor.faultAtNext .listUnfinished), none)
    | ']' :: _ => ([], .closed cursor.tail.position, some cursor.tail)
    | c :: _ =>
      if first then item cursor
      else if c = ',' then
        let next := cursor.tail.skipBlanks
        match next.rest with
        | [] => ([], .broken (next.faultAtNext .valueUnfinished), none)
        | ']' :: _ => ([], .broken (next.faultAtNext .trailingComma), none)
        | _ => item next
      else ([], .broken (cursor.faultAtNext .listCommaOrEndExpected), none)

/-- The members from here to the end of an object. -/
def readMembers (fuel levels : Nat) (first : Bool) (cursor : Cursor) :
    List (Key × Reading) × Ending × Option Cursor :=
  let cursor := cursor.skipBlanks
  match fuel with
  | 0 => ([], .broken (cursor.faultAtNext .valueExpected), none)
  | fuel + 1 =>
    let member (cursor : Cursor) : List (Key × Reading) × Ending × Option Cursor :=
      match cursor.rest with
      | '"' :: rest =>
        match readString rest (cursor.position.after '"') [] with
        | .error found => ([], .broken found, none)
        | .ok (text, behind) =>
          let key : Key := ⟨text, afterKey behind⟩
          let colon := behind.skipBlanks
          match colon.rest with
          | ':' :: _ =>
            match readValue fuel levels colon.tail with
            | (value, none) => ([(key, value)], .closed colon.position, none)
            | (value, some behind) =>
              let (members, ending, behind) := readMembers fuel levels false behind
              ((key, value) :: members, ending, behind)
          | rest =>
            let fault := if rest.isEmpty then Fault.objectUnfinished else .colonExpected
            let value : Reading := .broken colon.position (colon.faultAtNext fault)
            ([(key, value)], .closed colon.position, none)
      | _ => ([], .broken (cursor.faultAtNext .keyMustBeString), none)
    match cursor.rest with
    | [] => ([], .broken (cursor.faultAtNext .objectUnfinished), none)
    | '\x7d' :: _ => ([], .closed cursor.tail.position, some cursor.tail)
    | c :: _ =>
      if first then member cursor
      else if c = ',' then
        let next := cursor.tail.skipBlanks
        match next.rest with
        | [] => ([], .broken (next.faultAtNext .valueUnfinished), none)
        | '\x7d' :: _ => ([], .broken (next.faultAtNext .trailingComma), none)
        | _ => member next
      else ([], .broken (cursor.faultAtNext .objectCommaOrEndExpected), none)

end

namespace Reading

/-- How deep arrays and objects may be nested in a text. -/
def levelLimit : Nat := 127

/-- The reading of the first value of a text, and what is behind it if it is well-formed. -/
def first (levels : Nat) (text : String) : Reading × Option Cursor :=
  let chars := text.toList
  readValue (2 * chars.length + 2) levels ⟨chars, .start⟩

/-- The reading of the first value of a text; whatever follows it is left alone. -/
def ofText (text : String) : Reading := (first levelLimit text).1

mutual

/-- The value that was read, or the first fault and where in the value it is. -/
def toJson : Reading → Except FaultOnPath Json
  | atom value _ _ => .ok value.toJson
  | array _ items ending => do
    let values ← itemsToJson 0 items
    match ending with
    | .closed _ => return .array values
    | .broken found => throw ⟨[], found⟩
  | object _ members ending => do
    let values ← membersToJson members
    match ending with
    | .closed _ => return .object (Entries.ofList values)
    | .broken found => throw ⟨[.unknownKey], found⟩
  | broken _ found => .error ⟨[], found⟩

/-- The items that were read, the first of which stands at the given index. -/
def itemsToJson (index : Nat) : List Reading → Except FaultOnPath (List Json)
  | [] => .ok []
  | item :: rest => do
    let value ← item.toJson.mapError (.under (.index index))
    let values ← itemsToJson (index + 1) rest
    return value :: values

/-- The members that were read. -/
def membersToJson : List (Key × Reading) → Except FaultOnPath (List (String × Json))
  | [] => .ok []
  | (key, member) :: rest => do
    let value ← member.toJson.mapError (.under (.key key.text))
    let values ← membersToJson rest
    return (key.text, value) :: values

end

end Reading

namespace Json

/-- Reads a text that is one value with at most `levels` nested arrays and objects. -/
def parseWithin (levels : Nat) (text : String) : Except FaultAt Json := do
  let (reading, behind) := Reading.first levels text
  let value ← reading.toJson.mapError FaultOnPath.found
  match behind.map Cursor.skipBlanks with
  | some cursor =>
    if cursor.rest.isEmpty then return value else throw (cursor.faultAtNext .trailingCharacters)
  | none => return value

/-- Reads a text that is one value. -/
def parse (text : String) : Except FaultAt Json := parseWithin Reading.levelLimit text

end Json

end ControlProps
