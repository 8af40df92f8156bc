import ControlProps.Json.Reader
import ControlProps.Engine.Expression

/-!
# Reading expressions

The common part of the usual notation: literals, escapes, classes, groups, alternatives, greedy and
lazy repetition, and anchors. A text that breaks its rules has no expression; so have look-around,
back-references, classes by property, differences and intersections of classes. Ignoring case is
for the letters of ASCII.
-/

namespace ControlProps

namespace Expression

/-- The modes that a group such as `(?i)` switches on or off. -/
structure Modes where
  ignoreCase : Bool
  dotMatchesLineEnd : Bool
  multiLine : Bool

/-- All modes off. -/
def Modes.initial : Modes := ⟨false, false, false⟩

/-- The set with regard to the modes. -/
def Modes.fold (modes : Modes) (set : CharSet) : CharSet :=
  if modes.ignoreCase then set.foldCase else set

/-- What an escape stands for. -/
inductive Escape where
  | char (c : Char)
  | set (set : CharSet)
  | anchor (anchor : Anchor)

/-- The digits between braces or of a fixed number, as a character, and what follows. -/
def readCodePoint (width : Nat) (text : List Char) : Option (Char × List Char) :=
  let (digits, rest) : List Char × List Char :=
    match text with
    | '\x7b' :: inner => (inner.takeWhile (· ≠ '\x7d'), (inner.dropWhile (· ≠ '\x7d')).drop 1)
    | _ => (text.take width, text.drop width)
  if digits.isEmpty then none
  else (hexValue? digits).bind fun code =>
    if code.isValidChar then some (Char.ofNat code, rest) else none

/-- An escape behind its backslash, and what follows. -/
def readEscape : List Char → Option (Escape × List Char)
  | [] => none
  | c :: rest =>
    match c with
    | 'd' => some (.set .digit, rest)
    | 'D' => some (.set (.complement .digit), rest)
    | 'w' => some (.set .word, rest)
    | 'W' => some (.set (.complement .word), rest)
    | 's' => some (.set .blank, rest)
    | 'S' => some (.set (.complement .blank), rest)
    | 'b' => some (.anchor .wordBoundary, rest)
    | 'B' => some (.anchor .noWordBoundary, rest)
    | 'A' => some (.anchor .textStart, rest)
    | 'z' => some (.anchor .textEnd, rest)
    | 'n' => some (.char '\n', rest)
    | 'r' => some (.char '\r', rest)
    | 't' => some (.char '\t', rest)
    | 'f' => some (.char '\x0c', rest)
    | 'v' => some (.char '\x0b', rest)
    | 'a' => some (.char '\x07', rest)
    | 'x' => (readCodePoint 2 rest).map fun (c, rest) => (.char c, rest)
    | 'u' => (readCodePoint 4 rest).map fun (c, rest) => (.char c, rest)
    | 'U' => (readCodePoint 8 rest).map fun (c, rest) => (.char c, rest)
    | c =>
      if c.toNat < 128 && !c.isAlphanum && c != '<' && c != '>' then some (.char c, rest) else none

/-- The classes that are named between `[:` and `:]`. -/
def namedClass? (name : String) : Option CharSet :=
  let letters : CharSet := .union (.range 'a' 'z') (.range 'A' 'Z')
  let digits : CharSet := .range '0' '9'
  match name with
  | "alnum" => some (.union letters digits)
  | "alpha" => some letters
  | "ascii" => some (.range '\x00' '\x7f')
  | "blank" => some (.union (.single ' ') (.single '\t'))
  | "cntrl" => some (.union (.range '\x00' '\x1f') (.single '\x7f'))
  | "digit" => some digits
  | "graph" => some (.range '!' '~')
  | "lower" => some (.range 'a' 'z')
  | "print" => some (.range ' ' '~')
  | "punct" =>
    some (.union (.union (.range '!' '/') (.range ':' '@'))
      (.union (.range '[' '\x60') (.range '\x7b' '~')))
  | "space" => some (.union (.range '\t' '\r') (.single ' '))
  | "upper" => some (.range 'A' 'Z')
  | "word" => some (.union (.union letters digits) (.single '_'))
  | "xdigit" => some (.union digits (.union (.range 'a' 'f') (.range 'A' 'F')))
  | _ => none

/-- A named class behind its `[:`, and what follows; `^` before the name takes the complement. -/
def readNamedClass (text : List Char) : Option (CharSet × List Char) :=
  let (negated, named) : Bool × List Char :=
    match text with
    | '^' :: rest => (true, rest)
    | _ => (false, text)
  let name := named.takeWhile Char.isAlpha
  match named.dropWhile Char.isAlpha with
  | ':' :: ']' :: rest =>
    (namedClass? (String.ofList name)).map fun set =>
      (if negated then .complement set else set, rest)
  | _ => none

/-- One character of a class, or a set that an escape stands for, and what follows. -/
def readClassItem : List Char → Option ((Char ⊕ CharSet) × List Char)
  | [] => none
  | '\\' :: rest =>
    match readEscape rest with
    | some (.char c, rest) => some (.inl c, rest)
    | some (.set set, rest) => some (.inr set, rest)
    | _ => none
  | c :: rest => some (.inl c, rest)

/-- Whether a hyphen ahead makes a range of the character before it. -/
def continuesRange : List Char → Bool
  | '-' :: ']' :: _ => false
  | '-' :: '-' :: _ => false
  | '-' :: _ => true
  | _ => false

mutual

/-- A class behind its opening bracket, and what follows its closing one. -/
def readClass (fuel : Nat) (text : List Char) : Option (CharSet × List Char) :=
  match fuel with
  | 0 => none
  | fuel + 1 =>
    let (negated, inner) : Bool × List Char :=
      match text with
      | '^' :: rest => (true, rest)
      | _ => (false, text)
    let hyphens := inner.takeWhile (· == '-')
    let begun : CharSet := if hyphens.isEmpty then .none else .single '-'
    let (begun, rest) : CharSet × List Char :=
      match hyphens, inner.dropWhile (· == '-') with
      | [], ']' :: rest => (.single ']', rest)
      | _, rest => (begun, rest)
    (readClassItems fuel begun rest).map fun (set, rest) =>
      (if negated then .complement set else set, rest)

/-- The items of a class from here to its closing bracket, joined to those before them; no sets are
taken apart from each other. -/
def readClassItems (fuel : Nat) (before : CharSet) (text : List Char) :
    Option (CharSet × List Char) :=
  match fuel with
  | 0 => none
  | fuel + 1 =>
    match text with
    | [] => none
    | ']' :: rest => some (before, rest)
    | '[' :: rest => do
      let (set, rest) ← (match rest with
        | ':' :: named => (readNamedClass named) <|> readClass fuel rest
        | _ => readClass fuel rest)
      readClassItems fuel (.union before set) rest
    | '&' :: '&' :: _ | '-' :: '-' :: _ | '~' :: '~' :: _ => none
    | _ => do
      let (low, rest) ← readClassItem text
      if continuesRange rest then
        let (high, rest) ← readClassItem (rest.drop 1)
        match low, high with
        | .inl low, .inl high =>
          if low ≤ high then readClassItems fuel (.union before (.range low high)) rest else none
        | _, _ => none
      else
        match low with
        | .inl c => readClassItems fuel (.union before (.single c)) rest
        | .inr set => readClassItems fuel (.union before set) rest

end

/-- The bounds between the braces of a counted repetition, and what follows. -/
def readBounds (text : List Char) : Option ((Nat × Option Nat) × List Char) :=
  let least := text.takeWhile Char.isDigit
  if least.isEmpty then none
  else
    match text.dropWhile Char.isDigit with
    | '\x7d' :: rest => some ((digitsValue least, some (digitsValue least)), rest)
    | ',' :: '\x7d' :: rest => some ((digitsValue least, none), rest)
    | ',' :: rest =>
      let most := rest.takeWhile Char.isDigit
      match rest.dropWhile Char.isDigit with
      | '\x7d' :: rest =>
        if most.isEmpty || digitsValue most < digitsValue least then none
        else some ((digitsValue least, some (digitsValue most)), rest)
      | _ => none
    | _ => none

/-- The bounds of a repetition, and what follows; a mark for lazy repetition is passed over. -/
def readRepetition : List Char → Option ((Nat × Option Nat) × List Char)
  | '*' :: rest => some ((0, none), skipLazy rest)
  | '+' :: rest => some ((1, none), skipLazy rest)
  | '?' :: rest => some ((0, some 1), skipLazy rest)
  | '\x7b' :: rest => (readBounds rest).map fun (bounds, rest) => (bounds, skipLazy rest)
  | _ => none
where
  /-- Behind the mark for lazy repetition, if it is ahead. -/
  skipLazy : List Char → List Char
    | '?' :: rest => rest
    | rest => rest

/-- The modes that the letters of a group switch, and what follows them. -/
def readModes (on : Bool) (modes : Modes) : List Char → Option (Modes × List Char)
  | 'i' :: rest => readModes on { modes with ignoreCase := on } rest
  | 's' :: rest => readModes on { modes with dotMatchesLineEnd := on } rest
  | 'm' :: rest => readModes on { modes with multiLine := on } rest
  | 'u' :: rest => if on then readModes on modes rest else none
  | 'U' :: rest => readModes on modes rest
  | '-' :: c :: rest => if on && c.isAlpha then readModes false modes (c :: rest) else none
  | c :: rest => if c = ':' ∨ c = ')' then some (modes, c :: rest) else none
  | [] => none

/-- What follows the name of a group and its closing angle. -/
def skipGroupName (text : List Char) : Option (List Char) :=
  let nameChar (c : Char) : Bool := c.isAlphanum || c == '_' || c == '.' || c == '[' || c == ']'
  match text.head?, text.dropWhile nameChar with
  | some first, '>' :: rest => if first.isAlpha || first == '_' then some rest else none
  | _, _ => none

mutual

/-- Alternatives up to the end of the text or of the group, and what follows. -/
def readAlternatives (fuel : Nat) (modes : Modes) (text : List Char) :
    Option (Expression × List Char) :=
  match fuel with
  | 0 => none
  | fuel + 1 => do
    let (expression, modes, rest) ← readSequence fuel modes .empty none text
    match rest with
    | '|' :: rest => do
      let (others, rest) ← readAlternatives fuel modes rest
      return (.alternatives expression others, rest)
    | _ => return (expression, rest)

/--
A sequence up to the next bar, the end of the group or of the text. What comes last in it so far is
kept apart in `last`, for it may be repeated.
-/
def readSequence (fuel : Nat) (modes : Modes) (before : Expression) (last : Option Expression)
    (text : List Char) : Option (Expression × Modes × List Char) :=
  match fuel with
  | 0 => none
  | fuel + 1 =>
    let joined : Expression :=
      match last with
      | some expression => .sequence before expression
      | none => before
    let next (expression : Expression) (rest : List Char) :=
      readSequence fuel modes joined (some expression) rest
    match text with
    | [] | '|' :: _ | ')' :: _ => some (joined, modes, text)
    | '*' :: _ | '+' :: _ | '?' :: _ | '\x7b' :: _ => do
      let body ← last
      let ((least, most), rest) ← readRepetition text
      readSequence fuel modes before (some (.repeated body least most)) rest
    | '(' :: '?' :: 'P' :: '<' :: rest | '(' :: '?' :: '<' :: rest => do
      let inner ← skipGroupName rest
      let (expression, rest) ← readGroup fuel modes inner
      next expression rest
    | '(' :: '?' :: ')' :: _ => none
    | '(' :: '?' :: rest => do
      let (inside, rest) ← readModes true modes rest
      match rest with
      | ':' :: rest => do
        let (expression, rest) ← readGroup fuel inside rest
        next expression rest
      | _ => readSequence fuel inside joined none (rest.drop 1)
    | '(' :: rest => do
      let (expression, rest) ← readGroup fuel modes rest
      next expression rest
    | '[' :: rest => do
      let (set, rest) ← readClass fuel rest
      next (.one (modes.fold set)) rest
    | '.' :: rest =>
      next (.one (.complement (if modes.dotMatchesLineEnd then .none else .single '\n'))) rest
    | '^' :: rest => next (.anchor (if modes.multiLine then .lineStart else .textStart)) rest
    | '$' :: rest => next (.anchor (if modes.multiLine then .lineEnd else .textEnd)) rest
    | '\\' :: rest => do
      let (escape, rest) ← readEscape rest
      match escape with
      | .char c => next (.one (modes.fold (.single c))) rest
      | .set set => next (.one set) rest
      | .anchor condition => next (.anchor condition) rest
    | c :: rest => next (.one (modes.fold (.single c))) rest

/-- The inside of a group, and what follows its closing parenthesis. -/
def readGroup (fuel : Nat) (modes : Modes) (text : List Char) : Option (Expression × List Char) :=
  match fuel with
  | 0 => none
  | fuel + 1 => do
    let (expression, rest) ← readAlternatives fuel modes text
    match rest with
    | ')' :: rest => return (expression, rest)
    | _ => none

end

/-- The expression that a whole text spells. -/
def ofText? (text : String) : Option Expression :=
  let chars := text.toList
  match readAlternatives (4 * chars.length + 4) .initial chars with
  | some (expression, []) => some expression
  | _ => none

end Expression

end ControlProps
