import ControlProps.Entries
import ControlProps.Json.Reader

/-!
# Queries

A query takes a JSON value to a sequence of JSON values. A step that does not fit the value it is
taken from fails, and so does the whole query; a member or item that is merely absent is `null`.
-/

namespace ControlProps

/-- Why a query has no answer. -/
inductive QueryError where
  /-- The text is not a query. -/
  | malformed
  /-- The query uses a name that means nothing. -/
  | undefined (name : String)
  /-- A value has no members of the kind that a step asks for. -/
  | notAnObject
  /-- A value has no items. -/
  | notAnArray
  /-- A value has no parts. -/
  | noParts
  /-- An answer is no JSON value: it is nested too deep, or one of its numbers is not finite. -/
  | notJson
  deriving DecidableEq

/-- A step from a value to parts of it. -/
inductive QueryStep where
  | field (key : String)
  | item (index : Int)
  | each
  deriving DecidableEq

namespace QueryStep

/-- The item at an index; a negative one counts from the end. -/
def itemAt (items : List Json) (index : Int) : Json :=
  let place : Int := if index < 0 then items.length + index else index
  if place < 0 then .null else items[place.toNat]?.getD .null

/-- The parts that a step leads to. -/
def apply : QueryStep → Json → Except QueryError (List Json)
  | field key, .object members => .ok [(members.lookup key).getD .null]
  | field _, _ => .error .notAnObject
  | item index, .array items => .ok [itemAt items index]
  | item _, _ => .error .notAnArray
  | each, .array items => .ok items
  | each, .object members => .ok (members.map Prod.snd)
  | each, _ => .error .noParts

end QueryStep

/-- A query. -/
inductive Query where
  | identity
  | literal (value : Json)
  | nothing
  | named (name : String)
  | path (start : Query) (step : QueryStep) (lenient : Bool)
  | pipe (first second : Query)
  | both (first second : Query)
  | collect (items : Query)
  | member (members : Query) (key : String) (value : Query)

namespace Query

/-- The answers in order; the first that is an error stands for the whole query. -/
abbrev Answers (α : Type) := List (Except QueryError α)

/-- All values of a sequence without errors. -/
def gathered {α : Type} : Answers α → Except QueryError (List α)
  | [] => .ok []
  | answer :: rest => do
    let value ← answer
    let values ← gathered rest
    return value :: values

/-- The answers for each value of a sequence; an error is its own only answer. -/
def following {α β : Type} (answers : Answers α) (next : α → Answers β) : Answers β :=
  answers.flatMap fun answer =>
    match answer with
    | .ok value => next value
    | .error cause => [.error cause]

/-- The parts that a step leads to. A lenient step that does not fit leads nowhere. -/
def taken (step : QueryStep) (lenient : Bool) (value : Json) : Answers Json :=
  match step.apply value with
  | .ok parts => parts.map .ok
  | .error cause => if lenient then [] else [.error cause]

/-- A member set in an object. -/
def withMember (key : String) (value : Json) : Json → Json
  | .object members => .object (Entries.set members key value)
  | other => other

/-- The answers of a query for a value. -/
def answers : Query → Json → Answers Json
  | identity, value => [.ok value]
  | literal constant, _ => [.ok constant]
  | nothing, _ => []
  | named name, _ => [.error (.undefined name)]
  | path start step lenient, value => following (start.answers value) (taken step lenient)
  | pipe first second, value => following (first.answers value) second.answers
  | both first second, value => first.answers value ++ second.answers value
  | collect items, value => [(gathered (items.answers value)).map Json.array]
  | member members key part, value =>
    following (members.answers value) fun object =>
      following (part.answers value) fun answer => [.ok (withMember key answer object)]

/-- The first name in a query that means nothing. -/
def undefined? : Query → Option String
  | named name => some name
  | identity | literal _ | nothing => none
  | path start _ _ => start.undefined?
  | collect items => items.undefined?
  | pipe first second | both first second => first.undefined? <|> second.undefined?
  | member members _ value => members.undefined? <|> value.undefined?

/-- An answer, if it is a JSON value. -/
def checked (answer : Json) : Answers Json :=
  if answer.isReadable Reading.levelLimit then [.ok answer] else [.error .notJson]

/-- All answers of a query for a value. -/
def run (query : Query) (value : Json) : Except QueryError (List Json) :=
  gathered (following (query.answers value) checked)

end Query

end ControlProps
