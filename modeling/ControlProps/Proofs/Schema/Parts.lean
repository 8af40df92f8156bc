import ControlProps.Proofs.Value.Parts
import ControlProps.Schema.Basic

/-!
# Parts of schemas

The parts of a schema are the schemas that it is built from, down to any depth. The height of a
schema counts the levels of the deepest part below it.
-/

namespace ControlProps.Schema

variable [PatternEngine]

/-- The size of the schema of items is below that of the whole. -/
theorem sizeOf_lt_array {items : Schema} {least most : Option UInt64} :
    sizeOf items < sizeOf (array items least most) := by
  simp only [array.sizeOf_spec]
  omega

/-- The size of a declared schema is below that of the whole. -/
theorem sizeOf_lt_of_property {properties : List (String × Schema)} {required : List String}
    {additional : Additional} {entry : String × Schema} (hentry : entry ∈ properties) :
    sizeOf entry.2 < sizeOf (object properties required additional) := by
  have hlt := List.sizeOf_lt_of_mem hentry
  obtain ⟨key, declared⟩ := entry
  simp only [object.sizeOf_spec, Prod.mk.sizeOf_spec] at hlt ⊢
  omega

/-- The size of a branch is below that of a union at its first occurrence. -/
theorem sizeOf_lt_anyOf {branches : List Schema} {branch : Schema} (hbranch : branch ∈ branches) :
    sizeOf branch < sizeOf (anyOf branches) := by
  have hlt := List.sizeOf_lt_of_mem hbranch
  simp only [anyOf.sizeOf_spec]
  omega

/-- The size of a branch is below that of an exclusive union. -/
theorem sizeOf_lt_oneOf {branches : List Schema} {branch : Schema} (hbranch : branch ∈ branches) :
    sizeOf branch < sizeOf (oneOf branches) := by
  have hlt := List.sizeOf_lt_of_mem hbranch
  simp only [oneOf.sizeOf_spec]
  omega

/-- Structural induction, in which a claim is assumed for each property and each branch. -/
@[elab_as_elim, induction_eliminator]
theorem partsInduction {motive : Schema → Prop} (any : motive .any)
    (primitive : ∀ kind, motive (.primitive kind))
    (enumeration : ∀ values, motive (.enumeration values))
    (pattern : ∀ form, motive (.pattern form))
    (range : ∀ min max integer, motive (.range min max integer))
    (array : ∀ items least most, motive items → motive (.array items least most))
    (object : ∀ properties required additional, (∀ entry ∈ properties, motive entry.2) →
      motive (.object properties required additional))
    (anyOf : ∀ branches, (∀ branch ∈ branches, motive branch) → motive (.anyOf branches))
    (oneOf : ∀ branches, (∀ branch ∈ branches, motive branch) → motive (.oneOf branches)) :
    ∀ schema, motive schema :=
  -- the second and third claims range over properties and branches, the fourth over one property
  @Schema.rec _ motive (fun properties => ∀ entry ∈ properties, motive entry.2)
    (fun branches => ∀ branch ∈ branches, motive branch) (fun entry => motive entry.2)
    any primitive enumeration pattern range array object anyOf oneOf
    (fun _ h => absurd h List.not_mem_nil)
    (fun _ _ hhead htail => List.forall_mem_cons.mpr ⟨hhead, htail⟩)
    (fun _ h => absurd h List.not_mem_nil)
    (fun _ _ hhead htail => List.forall_mem_cons.mpr ⟨hhead, htail⟩)
    (fun _ _ h => h)

/-- The second schema is the first one or lies within it. -/
inductive HasPart : Schema → Schema → Prop
  | self {schema : Schema} : HasPart schema schema
  | items {items part : Schema} {least most : Option UInt64} (hpart : HasPart items part) :
      HasPart (.array items least most) part
  | property {properties : List (String × Schema)} {required : List String}
      {additional : Additional} {entry : String × Schema} {part : Schema}
      (hentry : entry ∈ properties) (hpart : HasPart entry.2 part) :
      HasPart (.object properties required additional) part
  | anyOf {branches : List Schema} {branch part : Schema} (hbranch : branch ∈ branches)
      (hpart : HasPart branch part) : HasPart (.anyOf branches) part
  | oneOf {branches : List Schema} {branch part : Schema} (hbranch : branch ∈ branches)
      (hpart : HasPart branch part) : HasPart (.oneOf branches) part

/-- All parts of a schema, itself among them, have a property. -/
def Everywhere (holds : Schema → Prop) (schema : Schema) : Prop :=
  ∀ part, schema.HasPart part → holds part

variable {holds : Schema → Prop}

/-- What holds everywhere holds of the schema itself. -/
theorem Everywhere.self {schema : Schema} (h : schema.Everywhere holds) : holds schema :=
  h schema .self

/-- What holds everywhere in an array schema holds everywhere in its items. -/
theorem Everywhere.items {items : Schema} {least most : Option UInt64}
    (h : (array items least most).Everywhere holds) : items.Everywhere holds :=
  fun part hpart => h part (.items hpart)

/-- What holds everywhere in an object schema holds everywhere in each of its properties. -/
theorem Everywhere.property {properties : List (String × Schema)} {required : List String}
    {additional : Additional} {entry : String × Schema}
    (h : (object properties required additional).Everywhere holds) (hentry : entry ∈ properties) :
    entry.2.Everywhere holds :=
  fun part hpart => h part (.property hentry hpart)

/-- What holds everywhere in a union holds everywhere in each of its branches. -/
theorem Everywhere.anyOf {branches : List Schema} {branch : Schema}
    (h : (anyOf branches).Everywhere holds) (hbranch : branch ∈ branches) :
    branch.Everywhere holds :=
  fun part hpart => h part (.anyOf hbranch hpart)

/-- What holds everywhere in an exclusive union holds everywhere in each of its branches. -/
theorem Everywhere.oneOf {branches : List Schema} {branch : Schema}
    (h : (oneOf branches).Everywhere holds) (hbranch : branch ∈ branches) :
    branch.Everywhere holds :=
  fun part hpart => h part (.oneOf hbranch hpart)

/-- A property of all parts of an array schema is one of itself and of all parts of its items. -/
theorem everywhere_array {items : Schema} {least most : Option UInt64} :
    (array items least most).Everywhere holds ↔
      holds (array items least most) ∧ items.Everywhere holds := by
  constructor
  · exact fun h => ⟨h.self, h.items⟩
  · rintro ⟨hself, hitems⟩ part hpart
    cases hpart with
    | self => exact hself
    | items hpart => exact hitems part hpart

/-- A property of all parts of an object schema is one of itself and of all parts of its
properties. -/
theorem everywhere_object {properties : List (String × Schema)} {required : List String}
    {additional : Additional} :
    (object properties required additional).Everywhere holds ↔
      holds (object properties required additional) ∧
        ∀ entry ∈ properties, entry.2.Everywhere holds := by
  constructor
  · exact fun h => ⟨h.self, fun _ hentry => h.property hentry⟩
  · rintro ⟨hself, hproperties⟩ part hpart
    cases hpart with
    | self => exact hself
    | property hentry hpart => exact hproperties _ hentry part hpart

/-- A property of all parts of a union is one of itself and of all parts of its branches. -/
theorem everywhere_anyOf {branches : List Schema} :
    (anyOf branches).Everywhere holds ↔
      holds (anyOf branches) ∧ ∀ branch ∈ branches, branch.Everywhere holds := by
  constructor
  · exact fun h => ⟨h.self, fun _ hbranch => h.anyOf hbranch⟩
  · rintro ⟨hself, hbranches⟩ part hpart
    cases hpart with
    | self => exact hself
    | anyOf hbranch hpart => exact hbranches _ hbranch part hpart

/-- A property of all parts of an exclusive union is one of itself and of all parts of its
branches. -/
theorem everywhere_oneOf {branches : List Schema} :
    (oneOf branches).Everywhere holds ↔
      holds (oneOf branches) ∧ ∀ branch ∈ branches, branch.Everywhere holds := by
  constructor
  · exact fun h => ⟨h.self, fun _ hbranch => h.oneOf hbranch⟩
  · rintro ⟨hself, hbranches⟩ part hpart
    cases hpart with
    | self => exact hself
    | oneOf hbranch hpart => exact hbranches _ hbranch part hpart

mutual

/-- The number of items, properties and branches that one passes on the way to the deepest part. -/
def height : Schema → Nat
  | array items _ _ => items.height + 1
  | object properties _ _ => propertiesHeight properties
  | anyOf branches | oneOf branches => branchesHeight branches
  | _ => 0

/-- The height of a union of branches. -/
def branchesHeight : List Schema → Nat
  | [] => 0
  | branch :: rest => max (branch.height + 1) (branchesHeight rest)

/-- The height of an object schema with properties. -/
def propertiesHeight : List (String × Schema) → Nat
  | [] => 0
  | (_, declared) :: rest => max (declared.height + 1) (propertiesHeight rest)

end

/-- A branch is less high than the union. -/
theorem height_lt_branchesHeight {branches : List Schema} {branch : Schema}
    (hbranch : branch ∈ branches) : branch.height < branchesHeight branches := by
  induction branches with
  | nil => simp at hbranch
  | cons first rest ih =>
    rw [branchesHeight]
    rcases List.mem_cons.mp hbranch with rfl | hrest
    · omega
    · have hlt := ih hrest
      omega

/-- An object schema keeps a bound exactly if all that it declares stays below it. -/
theorem propertiesHeight_le_iff {properties : List (String × Schema)} {bound : Nat} :
    propertiesHeight properties ≤ bound ↔ ∀ entry ∈ properties, entry.2.height < bound := by
  induction properties with
  | nil => simp [propertiesHeight]
  | cons first rest ih =>
    rw [propertiesHeight, Nat.max_le, Nat.succ_le_iff, ih, List.forall_mem_cons]

/-- A declared schema is less high than the object schema. -/
theorem height_lt_propertiesHeight {properties : List (String × Schema)}
    {entry : String × Schema} (hentry : entry ∈ properties) :
    entry.2.height < propertiesHeight properties :=
  propertiesHeight_le_iff.mp (Nat.le_refl _) entry hentry

/-- A schema without parts below it is its only part. -/
theorem everywhere_of_height_eq_zero {schema : Schema} (hheight : schema.height = 0) :
    schema.Everywhere holds ↔ holds schema := by
  refine ⟨Everywhere.self, fun hself part hpart => ?_⟩
  cases hpart with
  | self => exact hself
  | items => simp [height] at hheight
  | property hentry =>
    have hlt := height_lt_propertiesHeight hentry
    rw [height] at hheight
    omega
  | anyOf hbranch =>
    have hlt := height_lt_branchesHeight hbranch
    rw [height] at hheight
    omega
  | oneOf hbranch =>
    have hlt := height_lt_branchesHeight hbranch
    rw [height] at hheight
    omega

/-- The keys that a schema itself declares or requires differ from each other, as do those in each
of its literals. -/
def HasDistinctKeys : Schema → Prop
  | enumeration values => ∀ value ∈ values, value.DistinctKeys
  | object properties required _ => (Entries.keys properties).Nodup ∧ required.Nodup
  | _ => True

/-- No table in a schema repeats a key. -/
def DistinctKeys (schema : Schema) : Prop := schema.Everywhere HasDistinctKeys

end ControlProps.Schema
