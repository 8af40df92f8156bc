import ControlProps.Query.Basic
import ControlProps.Text.Blank

/-!
# Reading queries

A query is read in two rounds: its text into tokens, and the tokens into a query. A bar binds
weaker than a comma, and a comma weaker than the steps behind a value.
-/

namespace ControlProps

/-- A part of the text of a query. -/
inductive QueryToken where
  | dot
  | field (key : String)
  | word (name : String)
  | variable (name : String)
  | number (value : Json)
  | text (text : String)
  | mark (c : Char)

namespace Query

/-- A character that a name can begin with. -/
def beginsName (c : Char) : Bool := c.isAlpha || c == '_'

/-- A character that a name can go on with. -/
def continuesName (c : Char) : Bool := c.isAlphanum || c == '_'

/-- The longest name that a text begins with, and what follows. -/
def readName (text : List Char) : String × List Char :=
  (String.ofList (text.takeWhile continuesName), text.dropWhile continuesName)

/-- The exponent behind its mark, and what follows; a mark without digits is no exponent. -/
def readPower (text : List Char) : Option (Int × List Char) :=
  let (negative, unsigned) := Binary64.splitSign text
  let digits := unsigned.takeWhile Char.isDigit
  let magnitude : Int := digitsValue digits
  if digits.isEmpty then none
  else some (if negative then -magnitude else magnitude, unsigned.dropWhile Char.isDigit)

/-- A number of digits alone is an integer, if 64 bits can hold it. -/
def numberOfDigits (whole : List Char) : Json :=
  let magnitude := digitsValue whole
  if magnitude < UInt64.size then .int magnitude
  else .float (Binary64.ofDecimal false ⟨magnitude, 0⟩)

/-- The number that a text begins with, and what follows. -/
def readNumber (text : List Char) : Option (Json × List Char) :=
  let whole := text.takeWhile Char.isDigit
  let behind := text.dropWhile Char.isDigit
  let (fraction, behind, pointed) : List Char × List Char × Bool :=
    match behind with
    | '.' :: rest => (rest.takeWhile Char.isDigit, rest.dropWhile Char.isDigit, true)
    | _ => ([], behind, false)
  let float (exponent : Int) : Json :=
    .float (Binary64.ofDecimal false (Decimal.ofDigits whole fraction exponent))
  if pointed && fraction.isEmpty then none
  else
    match behind with
    | 'e' :: rest | 'E' :: rest =>
      (readPower rest).map fun (exponent, rest) => (float exponent, rest)
    | _ => some (if pointed then float 0 else numberOfDigits whole, behind)

/-- The marks that a query is put together with. -/
def marks : List Char := ['|', ',', '[', ']', '(', ')', '\x7b', '\x7d', ':', ';', '?', '-']

/-- The first token of a text that begins with no blank, and what follows. -/
def readToken : List Char → Option (QueryToken × List Char)
  | [] => none
  | '.' :: '.' :: _ => none
  | '.' :: c :: rest =>
    if beginsName c then
      let (name, rest) := readName (c :: rest)
      some (.field name, rest)
    else some (.dot, c :: rest)
  | '.' :: rest => some (.dot, rest)
  | '"' :: rest =>
    match readString rest .start [] with
    | .ok (text, behind) => some (.text text, behind.rest)
    | .error _ => none
  | '$' :: c :: rest =>
    if beginsName c then
      let (name, rest) := readName (c :: rest)
      some (.variable ("$" ++ name), rest)
    else none
  | c :: rest =>
    if c.isDigit then
      (readNumber (c :: rest)).map fun (value, rest) => (.number value, rest)
    else if beginsName c then
      let (name, rest) := readName (c :: rest)
      some (.word name, rest)
    else if marks.contains c then some (.mark c, rest)
    else none

/-- The tokens of a text; each of them takes one unit of `fuel`. -/
def readTokens : Nat → List Char → Option (List QueryToken)
  | 0, _ => none
  | fuel + 1, text =>
    match text.dropWhile isBlank with
    | [] => some []
    | c :: rest => do
      let (token, rest) ← readToken (c :: rest)
      let tokens ← readTokens fuel rest
      return token :: tokens

/-- The words that stand for something else than a query. -/
def reserved : List String :=
  ["def", "if", "then", "elif", "else", "end", "reduce", "foreach", "try", "catch", "as", "and",
   "or", "label", "import", "include"]

/-- What a name means. -/
def ofName (name : String) : Query :=
  if name = "empty" then nothing
  else if name = "null" then literal .null
  else if name = "true" then literal (.bool true)
  else if name = "false" then literal (.bool false)
  else named name

/-- The step that a constant between brackets stands for. -/
def stepAt : List QueryToken → Option (QueryStep × List QueryToken)
  | .mark ']' :: rest => some (.each, rest)
  | .number (.int index) :: .mark ']' :: rest => some (.item index, rest)
  | .mark '-' :: .number (.int index) :: .mark ']' :: rest => some (.item (-index), rest)
  | .text key :: .mark ']' :: rest => some (.field key, rest)
  | _ => none

/-- The step that tokens begin with, and what follows; `none` where there is no step. -/
def readStep : List QueryToken → Option (QueryStep × List QueryToken)
  | .field key :: rest => some (.field key, rest)
  | .dot :: .text key :: rest => some (.field key, rest)
  | .dot :: .mark '[' :: rest | .mark '[' :: rest => stepAt rest
  | _ => none

/-- Behind the question marks, and whether there are any. -/
def readLenient : List QueryToken → Bool × List QueryToken
  | .mark '?' :: rest => (true, (readLenient rest).2)
  | rest => (false, rest)

/-- A value with all steps behind it, and what follows. -/
def readSteps : Nat → Query → List QueryToken → Query × List QueryToken
  | 0, start, tokens => (start, tokens)
  | fuel + 1, start, tokens =>
    match readStep tokens with
    | none => (start, tokens)
    | some (step, rest) =>
      let (lenient, rest) := readLenient rest
      readSteps fuel (path start step lenient) rest

/-- The opposite of a number. -/
def negated : Json → Json
  | .int value => .int (-value)
  | .float value => .float value.negate
  | other => other

mutual

/-- Queries between bars. Without `commas`, a comma ends the query. -/
def readPipe (fuel : Nat) (commas : Bool) (tokens : List QueryToken) :
    Option (Query × List QueryToken) :=
  match fuel with
  | 0 => none
  | fuel + 1 => do
    let (first, rest) ← readBoth fuel commas tokens
    match rest with
    | .mark '|' :: rest =>
      let (second, rest) ← readPipe fuel commas rest
      return (pipe first second, rest)
    | _ => return (first, rest)

/-- Queries between commas. -/
def readBoth (fuel : Nat) (commas : Bool) (tokens : List QueryToken) :
    Option (Query × List QueryToken) :=
  match fuel with
  | 0 => none
  | fuel + 1 => do
    let (first, rest) ← readTerm fuel tokens
    match commas, rest with
    | true, .mark ',' :: rest =>
      let (second, rest) ← readBoth fuel commas rest
      return (both first second, rest)
    | _, _ => return (first, rest)

/-- A value with the steps behind it. -/
def readTerm (fuel : Nat) (tokens : List QueryToken) : Option (Query × List QueryToken) :=
  match fuel with
  | 0 => none
  | fuel + 1 => do
    let (start, rest) ← readStart fuel tokens
    return readSteps fuel start rest

/-- What the steps of a term start from. -/
def readStart (fuel : Nat) (tokens : List QueryToken) : Option (Query × List QueryToken) :=
  match fuel with
  | 0 => none
  | fuel + 1 =>
    match tokens with
    | .field key :: rest => some (identity, .field key :: rest)
    | .dot :: .text key :: rest => some (identity, .field key :: rest)
    | .dot :: rest => some (identity, rest)
    | .number value :: rest => some (literal value, rest)
    | .mark '-' :: .number value :: rest => some (literal (negated value), rest)
    | .text text :: rest => some (literal (.string text), rest)
    | .variable name :: rest => some (named name, rest)
    | .word name :: .mark '(' :: rest =>
      if reserved.contains name then none
      else (readArguments fuel rest).map fun rest => (named name, rest)
    | .word name :: rest => if reserved.contains name then none else some (ofName name, rest)
    | .mark '(' :: rest => do
      let (inner, rest) ← readPipe fuel true rest
      match rest with
      | .mark ')' :: rest => return (inner, rest)
      | _ => none
    | .mark '[' :: .mark ']' :: rest => some (literal (.array []), rest)
    | .mark '[' :: rest => do
      let (items, rest) ← readPipe fuel true rest
      match rest with
      | .mark ']' :: rest => return (collect items, rest)
      | _ => none
    | .mark '\x7b' :: .mark '\x7d' :: rest => some (literal (.object []), rest)
    | .mark '\x7b' :: rest => readMembers fuel (literal (.object [])) rest
    | _ => none

/-- What follows the arguments of a name. -/
def readArguments (fuel : Nat) (tokens : List QueryToken) : Option (List QueryToken) :=
  match fuel with
  | 0 => none
  | fuel + 1 => do
    let (_, rest) ← readPipe fuel true tokens
    match rest with
    | .mark ')' :: rest => return rest
    | .mark ';' :: rest => readArguments fuel rest
    | _ => none

/-- The members from here to the closing brace, set after those before them. -/
def readMembers (fuel : Nat) (before : Query) (tokens : List QueryToken) :
    Option (Query × List QueryToken) :=
  match fuel with
  | 0 => none
  | fuel + 1 => do
    let (key, rest) ← (match tokens with
      | .word key :: rest | .text key :: rest => some (key, rest)
      | _ => none)
    let (value, rest) ← (match rest with
      | .mark ':' :: rest => readPipe fuel false rest
      | _ => some (path identity (.field key) false, rest))
    match rest with
    | .mark ',' :: rest => readMembers fuel (member before key value) rest
    | .mark '\x7d' :: rest => return (member before key value, rest)
    | _ => none

end

/-- The query that a whole text spells, which may use names that mean nothing. -/
def spelled? (text : String) : Option Query := do
  let tokens ← readTokens (text.length + 1) text.toList
  let (query, rest) ← readPipe (4 * tokens.length + 4) true tokens
  if rest.isEmpty then some query else none

/-- The query that a whole text spells. -/
def ofText (text : String) : Except QueryError Query :=
  match spelled? text with
  | none => .error .malformed
  | some query =>
    match query.undefined? with
    | some name => .error (.undefined name)
    | none => .ok query

/-- All answers of the query that a text spells. -/
def runText (text : String) (value : Json) : Except QueryError (List Json) := do
  let query ← ofText text
  query.run value

end Query

end ControlProps
