import ControlProps.Schema.Dialect

/-!
# Deciding keywords

What a reader finds under a keyword is what a look-up finds. So each of the deciding keywords can
be looked at by itself: once those before it are absent, it alone says how an object is read.
-/

namespace ControlProps.Schema

variable [PatternEngine] {members : List (String × Json)}

/-- The branches under a keyword are those of its look-up. -/
theorem readBranchesAt_eq_lookup {keyword : String} :
    readBranchesAt keyword members =
      (members.lookup keyword).map fun value =>
        (readBranches value).mapError (.under keyword) := by
  induction members with
  | nil => rfl
  | cons member rest ih =>
    obtain ⟨key, value⟩ := member
    by_cases hkey : key = keyword
    · simp [readBranchesAt, hkey]
    · rw [readBranchesAt, if_neg hkey, ih, List.lookup_cons,
        beq_eq_false_iff_ne.mpr (Ne.symm hkey)]

/-- What describes the items is found by a look-up. -/
theorem readItems_eq_lookup :
    readItems members =
      match members.lookup "items" with
      | none => .ok any
      | some value => (ofJson value).mapError (.under "items") := by
  induction members with
  | nil => rfl
  | cons member rest ih =>
    obtain ⟨key, value⟩ := member
    by_cases hkey : key = "items"
    · simp [readItems, hkey]
    · rw [readItems, if_neg hkey, ih, List.lookup_cons,
        beq_eq_false_iff_ne.mpr (Ne.symm hkey)]

/-- The declared properties are found by a look-up. -/
theorem readProperties_eq_lookup :
    readProperties members =
      match members.lookup "properties" with
      | none => .ok []
      | some value => (readDeclared value).mapError (.under "properties") := by
  induction members with
  | nil => rfl
  | cons member rest ih =>
    obtain ⟨key, value⟩ := member
    by_cases hkey : key = "properties"
    · simp [readProperties, hkey]
    · rw [readProperties, if_neg hkey, ih, List.lookup_cons,
        beq_eq_false_iff_ne.mpr (Ne.symm hkey)]

/-- An array schema with the keywords that belong to arrays. -/
def readArray (members : List (String × Json)) : Except SchemaError Schema := do
  let items ← readItems members
  let least ← readCount "minItems" members
  let most ← readCount "maxItems" members
  return array items least most

/-- An object schema with the keywords that belong to objects. -/
def readObject (members : List (String × Json)) : Except SchemaError Schema := do
  let properties ← readProperties members
  let required ← readRequired members
  let additional ← readAdditional members
  return object properties required additional

/-- The schema of a kind with the keywords that belong to it. -/
def readTyped (members : List (String × Json)) : Kind → Except SchemaError Schema
  | .number => readNumeric false members
  | .integer => readNumeric true members
  | .string => readString members
  | .array => readArray members
  | .object => readObject members
  | kind => .ok (primitive kind)

/-- Numbers and integers are read alike. -/
theorem readTyped_numeric {integer : Bool} :
    readTyped members (if integer then .integer else .number) = readNumeric integer members := by
  cases integer <;> rfl

/-- `anyOf` decides before all other keywords. -/
theorem ofJson_of_anyOf {value : Json} (hany : members.lookup "anyOf" = some value) :
    ofJson (.object members) = ((readBranches value).mapError (.under "anyOf")).map anyOf := by
  simp [ofJson, readBranchesAt_eq_lookup, hany]

/-- Without `anyOf`, `oneOf` decides. -/
theorem ofJson_of_oneOf {value : Json} (hany : members.lookup "anyOf" = none)
    (hone : members.lookup "oneOf" = some value) :
    ofJson (.object members) = ((readBranches value).mapError (.under "oneOf")).map oneOf := by
  simp [ofJson, readBranchesAt_eq_lookup, hany, hone]

/-- Without unions, `enum` decides. -/
theorem ofJson_of_enum {values : List Json} (hany : members.lookup "anyOf" = none)
    (hone : members.lookup "oneOf" = none)
    (henum : members.lookup "enum" = some (.array values)) :
    ofJson (.object members) = .ok (enumeration (Value.ofItems values)) := by
  simp [ofJson, readBranchesAt_eq_lookup, hany, hone, henum]

/-- Without unions and literals, the name of a type decides. -/
theorem ofJson_of_type {name : String} {kind : Kind} (hany : members.lookup "anyOf" = none)
    (hone : members.lookup "oneOf" = none) (henum : members.lookup "enum" = none)
    (htype : members.lookup "type" = some (.string name)) (hkind : Kind.ofName? name = some kind) :
    ofJson (.object members) = readTyped members kind := by
  simp only [ofJson, readBranchesAt_eq_lookup, hany, hone, henum, htype, Option.map_none, hkind]
  cases kind <;> rfl

/-- An object without deciding keywords describes every value. -/
theorem ofJson_of_none (hany : members.lookup "anyOf" = none)
    (hone : members.lookup "oneOf" = none) (henum : members.lookup "enum" = none)
    (htype : members.lookup "type" = none) : ofJson (.object members) = .ok any := by
  simp [ofJson, readBranchesAt_eq_lookup, hany, hone, henum, htype]

end ControlProps.Schema
