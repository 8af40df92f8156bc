import ControlProps.Engine.Reader
import ControlProps.SharedSchemas

/-!
# The engine of expressions

The engine that the program runs with. It reads sources as expressions, the source of the pattern of
dimension texts among them.
-/

namespace ControlProps

namespace Expression

/-- Expressions one after the other. -/
def inSequence (parts : List Expression) : Expression := parts.foldl .sequence .empty

/-- The expression of a literal text. -/
def literal (text : String) : Expression :=
  inSequence (text.toList.map fun c => .one (.single c))

/-- What may be absent. -/
def optional (body : Expression) : Expression := .repeated body 0 (some 1)

/-- One or more decimal digits. -/
def digits : Expression := .repeated (.one .digit) 1 none

/-- A plus or a minus. -/
def sign : Expression := .one (.union (.union .none (.single '+')) (.single '-'))

/-- A point and digits. -/
def fraction : Expression := inSequence [.one (.single '.'), digits]

/-- Digits with or without a fraction, or only a fraction. -/
def number : Expression := .alternatives (inSequence [digits, optional fraction]) fraction

/-- The suffix of a unit. -/
def unit : Expression :=
  .alternatives (literal "%") (.alternatives (literal "px") (.alternatives (literal "vw")
    (.alternatives (literal "vh") (.alternatives (literal "vmin") (literal "vmax")))))

/-- A number with an optional sign and then an optional unit, and nothing else. -/
def dimension : Expression :=
  inSequence [.anchor .textStart, optional sign, number, optional unit, .anchor .textEnd]

/-- The source of the pattern of dimension texts spells this expression. -/
theorem ofText?_dimensionSource :
    ofText? SharedSchemas.dimensionSource = some dimension := by decide +kernel

end Expression

/-- The engine that reads sources as expressions. -/
instance expressionEngine : SharedPatterns where
  Compiled := Expression
  compile? := Expression.ofText?
  find? := Expression.find?
  dimension := Expression.dimension
  dimension_compiles := Expression.ofText?_dimensionSource

end ControlProps
