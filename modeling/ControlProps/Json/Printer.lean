import ControlProps.Json.Basic
import ControlProps.Text.Quoted

/-!
# JSON text

`Json.compress` writes a value on one line without blanks, `Json.pretty` with one item or member a
line. Only quotes, backslashes and controls are escaped in strings.
-/

namespace ControlProps

/-- The digits of `d`, with a point after the first one if there are more. -/
def Decimal.leadingPoint (digits : List Char) : List Char :=
  match digits with
  | [] => []
  | [digit] => [digit]
  | digit :: rest => digit :: '.' :: rest

/--
A magnitude as JSON shows it: positional, and always with a point, while its first digit stands
between `10 ^ (-5)` and `10 ^ 15`; else one digit before the point and a signed exponent.
-/
def Decimal.jsonText (d : Decimal) : String :=
  let digits := Nat.toDigits 10 d.coefficient
  let leading := d.exponent + digits.length - 1
  if d.coefficient = 0 ∨ (-5 ≤ leading ∧ leading ≤ 15) then
    if d.exponent < 0 then d.positional else d.positional ++ ".0"
  else
    String.ofList (Decimal.leadingPoint digits) ++ "e" ++
      (if 0 ≤ leading then "+" else "-") ++ toString leading.natAbs

/-- A number as JSON text; what is not finite has none and becomes `null`. -/
def Binary64.jsonText (x : Binary64) : String :=
  match x with
  | nan => "null"
  | signed negative rank =>
    if rank.val < infinityRank then
      (if negative then "-" else "") ++ (Decimal.shortest .toEven rank).jsonText
    else "null"

namespace Json

/-- A character as it stands in a JSON string. -/
def escaped (c : Char) : String :=
  match c with
  | '"' => "\\\""
  | '\\' => "\\\\"
  | '\n' => "\\n"
  | '\r' => "\\r"
  | '\t' => "\\t"
  | '\x08' => "\\b"
  | '\x0c' => "\\f"
  | c =>
    if c.toNat < 32 then (if c.toNat < 16 then "\\u000" else "\\u00") ++ hexDigits c.toNat
    else c.toString

/-- A JSON string with its quotes. -/
def quotedText (text : String) : String :=
  "\"" ++ String.join (text.toList.map escaped) ++ "\""

/-- A value that is neither array nor object; those are left out. -/
def atomText : Json → String
  | null => "null"
  | bool value => if value then "true" else "false"
  | int value => toString value
  | float value => value.jsonText
  | string value => quotedText value
  | _ => ""

mutual

/-- The value on one line, without blanks. -/
def compress : Json → String
  | array items => "[" ++ ",".intercalate (compressItems items) ++ "]"
  | object members => "\x7b" ++ ",".intercalate (compressMembers members) ++ "\x7d"
  | atom => atom.atomText

/-- Each item on one line. -/
def compressItems : List Json → List String
  | [] => []
  | item :: rest => item.compress :: compressItems rest

/-- Each member on one line. -/
def compressMembers : List (String × Json) → List String
  | [] => []
  | (key, value) :: rest => (quotedText key ++ ":" ++ value.compress) :: compressMembers rest

end

/-- Parts between brackets, one a line, the lines two blanks further in than the brackets. -/
def bracketed (opening closing indent : String) (parts : List String) : String :=
  if parts.isEmpty then opening ++ closing
  else opening ++ "\n" ++ ",\n".intercalate (parts.map fun part => indent ++ "  " ++ part) ++
    "\n" ++ indent ++ closing

mutual

/-- The value with one item or member a line, for use behind the given indentation. -/
def prettyIn (indent : String) : Json → String
  | array items => bracketed "[" "]" indent (prettyItems (indent ++ "  ") items)
  | object members => bracketed "\x7b" "\x7d" indent (prettyMembers (indent ++ "  ") members)
  | atom => atom.atomText

/-- Each item behind the given indentation. -/
def prettyItems (indent : String) : List Json → List String
  | [] => []
  | item :: rest => item.prettyIn indent :: prettyItems indent rest

/-- Each member behind the given indentation. -/
def prettyMembers (indent : String) : List (String × Json) → List String
  | [] => []
  | (key, value) :: rest =>
    (quotedText key ++ ": " ++ value.prettyIn indent) :: prettyMembers indent rest

end

/-- The value over several lines. -/
def pretty (value : Json) : String := value.prettyIn ""

end Json

end ControlProps
