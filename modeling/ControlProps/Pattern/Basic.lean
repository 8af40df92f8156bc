/-!
# Patterns

A pattern is a text that an engine compiles. How the engine reads the text and what the compiled
form matches is left open here: schemas, and all that is proved of them, are for any engine.
Patterns are told apart by their texts alone.
-/

namespace ControlProps

/-- What compiles the sources of patterns and searches texts for their matches. -/
class PatternEngine where
  /-- What sources are compiled to. -/
  Compiled : Type
  /-- The compiled form of a source, if it can be compiled. -/
  compile? : String → Option Compiled
  /-- Where the first match in a text begins, if there is one. -/
  find? : Compiled → String → Option Nat

/-- A source together with its compiled form. -/
structure Pattern [PatternEngine] where
  source : String
  compiled : PatternEngine.Compiled
  compiles : PatternEngine.compile? source = some compiled

namespace Pattern

variable [PatternEngine]

/-- The pattern with the given source, if it can be compiled. -/
def compile? (source : String) : Option Pattern :=
  match compiles : PatternEngine.compile? source with
  | some compiled => some ⟨source, compiled, compiles⟩
  | none => none

/-- Whether the first match begins where the text does; only a pattern that ends in `$` has to cover
the whole text. -/
def matchesStart (pattern : Pattern) (text : String) : Bool :=
  PatternEngine.find? pattern.compiled text == some 0

/-- Patterns with one source are the same. -/
theorem ext {p q : Pattern} (same : p.source = q.source) : p = q := by
  obtain ⟨source, compiled, compiles⟩ := p
  obtain ⟨_, other, compilesToo⟩ := q
  subst same
  have : compiled = other := Option.some.inj (compiles.symm.trans compilesToo)
  subst this
  rfl

instance : DecidableEq Pattern := fun p q =>
  if same : p.source = q.source then .isTrue (ext same)
  else .isFalse fun equal => same (congrArg source equal)

end Pattern

end ControlProps
