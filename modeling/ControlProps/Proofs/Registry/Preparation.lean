import ControlProps.Engine.Patterns
import ControlProps.Proofs.Geometry.Coercion
import ControlProps.Proofs.Registry.EntryPoints
import ControlProps.Proofs.Schema.Composition
import ControlProps.Proofs.SharedSchemas
import ControlProps.Proofs.Value.Identity

/-!
# Preparing bags

What the layers say about geometry accepts what coercion makes of it. So coercion breaks no bag that
a control accepts, unless the control declares geometry in a way of its own. Preparing a bag that
was prepared gives that bag again.
-/

namespace ControlProps

namespace Normalizer

variable [SharedPatterns]

/-- Whether a schema describes all that a normalizer gives, no dimension text overflowing. -/
def Fits (normalizer : Normalizer) (schema : Schema) : Prop :=
  ∀ strict value found, normalizer.apply false value = .ok (some found) →
    normalizer.HasFiniteDimensions value → schema.Conforms strict found

/-- The shared schema of dimensions describes canonical dimensions. -/
theorem dimension_fits (hpattern : SharedSchemas.DimensionPatternIsExact) :
    dimension.Fits SharedSchemas.dimension := by
  intro strict value found hfound hfinite
  obtain ⟨size, hread, rfl⟩ := optionMap_eq_ok_some_iff.mp hfound
  refine (SharedSchemas.dimension_conforms_iff hpattern).mpr ?_
  rintro number unit rfl
  exact Dimension.isFinite_of_ofValue hread hfinite

/-- The shared schema of paddings describes canonical paddings. -/
theorem padding_fits : padding.Fits SharedSchemas.padding := by
  intro strict value found hfound _
  obtain ⟨room, _, rfl⟩ := optionMap_eq_ok_some_iff.mp hfound
  exact SharedSchemas.padding_conforms room

/-- The shared schema of alignments describes canonical alignments. -/
theorem alignment_fits : alignment.Fits SharedSchemas.alignment := by
  intro strict value found hfound _
  obtain ⟨place, _, rfl⟩ := optionMap_eq_ok_some_iff.mp hfound
  exact SharedSchemas.alignment_conforms place

/-- What describes every value describes canonical ones. -/
theorem fits_any (normalizer : Normalizer) : normalizer.Fits .any := by
  intro strict value found _ _
  rw [Schema.Conforms]
  exact .inr trivial

/-- The shared schema for what a normalizer gives, where the layout has one. -/
def shared? : Normalizer → Option Schema
  | dimension => some SharedSchemas.dimension
  | padding => some SharedSchemas.padding
  | alignment => some SharedSchemas.alignment
  | _ => none

/-- The shared schemas describe canonical values, and they are not high. -/
theorem fits_shared (hpattern : SharedSchemas.DimensionPatternIsExact)
    {normalizer : Normalizer} {schema : Schema} (hshared : normalizer.shared? = some schema) :
    normalizer.Fits schema ∧ schema.height ≤ 3 := by
  cases normalizer with
  | dimension =>
    obtain rfl := Option.some.inj hshared
    exact ⟨dimension_fits hpattern, of_decide_eq_true rfl⟩
  | padding =>
    obtain rfl := Option.some.inj hshared
    exact ⟨padding_fits, of_decide_eq_true rfl⟩
  | alignment =>
    obtain rfl := Option.some.inj hshared
    exact ⟨alignment_fits, of_decide_eq_true rfl⟩
  | _ => contradiction

/-- The layout declares geometry by the shared schemas. -/
theorem shared?_of_layout {normalizer : Normalizer} {key : String} {schema : Schema}
    (hkey : ofKey? key = some normalizer)
    (hdeclared : SharedSchemas.layout.property? key = some schema) :
    normalizer.shared? = some schema := by
  have hmem := Entries.mem_of_lookup hdeclared
  simp only [List.mem_cons, List.not_mem_nil, or_false, Prod.mk.injEq] at hmem
  rcases hmem with ⟨rfl, rfl⟩ | ⟨rfl, rfl⟩ | ⟨rfl, rfl⟩ | ⟨rfl, rfl⟩ | ⟨rfl, rfl⟩ | ⟨rfl, rfl⟩ |
    ⟨rfl, rfl⟩ | ⟨rfl, rfl⟩ | ⟨rfl, rfl⟩ | ⟨rfl, rfl⟩ | ⟨rfl, rfl⟩ | ⟨rfl, rfl⟩ <;>
      cases hkey <;> rfl

/-- Properties none of which is geometry declare no geometric key. -/
theorem lookup_eq_none_of_ofKey? {properties : List (String × Schema)} {normalizer : Normalizer}
    {key : String} (hgeometry : ∀ declared ∈ Entries.keys properties, ofKey? declared = none)
    (hkey : ofKey? key = some normalizer) : properties.lookup key = none := by
  rw [Entries.lookup_eq_none_iff_notMem]
  intro hmem
  rw [hgeometry key hmem] at hkey
  contradiction

/-- What all controls share declares no geometry. -/
theorem universal_property?_of_ofKey? {normalizer : Normalizer} {key : String}
    (hkey : ofKey? key = some normalizer) : SharedSchemas.universal.property? key = none := by
  rw [Schema.property?, SharedSchemas.universal, Schema.openObject, Schema.properties?,
    Option.bind_some]
  refine lookup_eq_none_of_ofKey? ?_ hkey
  simp only [Entries.keys, List.map_cons, List.map_nil]
  decide

/-- A hint allows every value. -/
theorem eq_any_of_catchAll {hints : List String} {key : String} {schema : Schema}
    (hdeclared : (SharedSchemas.catchAll hints).property? key = some schema) : schema = .any := by
  obtain ⟨_, _, hany⟩ := List.mem_map.mp (Entries.mem_of_lookup hdeclared)
  exact (Prod.mk.inj hany).2.symm

/-- Where a control declares no geometry of its own, its schema describes canonical values. -/
theorem fits_composed (hpattern : SharedSchemas.DimensionPatternIsExact) {control : Control}
    {properties : List (String × Schema)} {required : List String} {additional : Additional}
    {normalizer : Normalizer} {key : String} {schema : Schema}
    (hcontrol : control.schema = .object properties required additional)
    (hundeclared : properties.lookup key = none) (hkey : ofKey? key = some normalizer)
    (hdeclared : (Registry.composed control).property? key = some schema) :
    normalizer.Fits schema ∧ schema.height ≤ 3 := by
  rw [Registry.composed, hcontrol, Schema.property?_compose, hundeclared, Option.none_or]
    at hdeclared
  cases hlayout : SharedSchemas.layout.property? key with
  | some found =>
    rw [List.findSome?_cons, hlayout] at hdeclared
    obtain rfl := Option.some.inj hdeclared
    exact fits_shared hpattern (shared?_of_layout hkey hlayout)
  | none =>
    rw [List.findSome?_cons, hlayout, List.findSome?_cons,
      universal_property?_of_ofKey? hkey] at hdeclared
    have hhint : (SharedSchemas.catchAll control.hints).property? key = some schema := by
      simpa using hdeclared
    obtain rfl := eq_any_of_catchAll hhint
    exact ⟨normalizer.fits_any, of_decide_eq_true rfl⟩

end Normalizer

namespace Registry

section

variable [SharedPatterns] {registry : Registry} {catalog : Catalog} {type : String}
  {control : Control} {strict : Bool} {bag out : PropertyBag}

/-- A bag is prepared if it is coerced and its coerced form accepted. -/
theorem prepareProps_eq_ok_iff : ((prepareProps type strict bag).run registry).1 = .ok out ↔
    PropertyBag.coerce bag = .ok out ∧
      ((ensureValidProps type strict out).run registry).1 = .ok () := by
  cases hcoerced : PropertyBag.coerce bag with
  | error cause =>
    rw [prepareProps_run_of_error hcoerced]
    simp
  | ok coerced =>
    rw [prepareProps_run_of_ok hcoerced, map_eq_ok_iff]
    constructor
    · rintro ⟨⟨⟩, haccepted, rfl⟩
      exact ⟨rfl, haccepted⟩
    · rintro ⟨hsame, haccepted⟩
      obtain rfl := Except.ok.inj hsame
      exact ⟨(), haccepted, rfl⟩

/-- What allows an entry allows what coercion makes of it, unless a control declares geometry in a
way of its own. -/
theorem allowsEntry_of_coerced (hpattern : SharedSchemas.DimensionPatternIsExact)
    {properties declared : List (String × Schema)} {required : List String}
    {additional : Additional} {refuse : Bool} {depth : Nat} {given found : String × Value}
    (hcontrol : control.schema = .object properties required additional)
    (hcomposed : composed control = .object declared required additional)
    (hgeometry : ∀ key ∈ Entries.keys properties, Normalizer.ofKey? key = none)
    (hdepth : 3 < depth) (hcoerced : PropertyBag.Coerced given found)
    (hfinite : ∀ normalizer ∈ Normalizer.ofKey? given.1,
      normalizer.HasFiniteDimensions given.2)
    (hallowed : Schema.AllowsEntry strict declared refuse depth given) :
    Schema.AllowsEntry strict declared refuse depth found := by
  obtain ⟨_, value⟩ := given
  obtain ⟨key, coerced⟩ := found
  obtain ⟨rfl, hvalue⟩ := hcoerced
  cases hnormalizer : Normalizer.ofProperty? key value with
  | none =>
    rw [PropertyBag.coerceProperty_of_none hnormalizer] at hvalue
    obtain rfl := Option.some.inj (Except.ok.inj hvalue)
    exact hallowed
  | some normalizer =>
    rw [PropertyBag.coerceProperty_eq_ok_iff hnormalizer] at hvalue
    have hkey := (Normalizer.ofProperty?_eq_some_iff.mp hnormalizer).1
    have hundeclared := Normalizer.lookup_eq_none_of_ofKey? hgeometry hkey
    unfold Schema.AllowsEntry at hallowed ⊢
    cases hlookup : declared.lookup key with
    | none =>
      rw [hlookup] at hallowed
      exact hallowed
    | some schema =>
      have hproperty : (composed control).property? key = some schema := by
        rw [hcomposed]
        exact hlookup
      obtain ⟨hfits, hheight⟩ :=
        Normalizer.fits_composed hpattern hcontrol hundeclared hkey hproperty
      have hconforms := hfits strict value coerced hvalue (hfinite normalizer hkey)
      exact (Schema.walk_eq_clean_iff_conforms (by omega)).mpr hconforms

omit [SharedPatterns] in
/-- A required key of a bag is kept by coercion if it is not `null`. -/
theorem mem_keys_of_coerced {key : String} (hcoerced : PropertyBag.coerce bag = .ok out)
    (hkey : key ∈ Entries.keys bag) (hnull : bag.lookup key ≠ some .null) :
    key ∈ Entries.keys out := by
  obtain ⟨value, hvalue⟩ := Entries.exists_lookup_of_mem_keys hkey
  have hpresent : (key, value) ∈ bag.present := by
    refine PropertyBag.mem_present_iff.mpr ⟨Entries.mem_of_lookup hvalue, ?_⟩
    cases value with
    | null => contradiction
    | _ => rfl
  obtain ⟨found, hfound, rfl, _⟩ := PropertyBag.exists_found_of_coerce hcoerced hpresent
  exact List.mem_map_of_mem hfound

/-- A clean walk of a bag stays clean when the bag is coerced. -/
theorem walkBag_eq_clean_of_coerce (hpattern : SharedSchemas.DimensionPatternIsExact)
    {properties : List (String × Schema)} {required : List String} {additional : Additional}
    {depth : Nat}
    (hcontrol : control.schema = .object properties required additional)
    (hgeometry : ∀ key ∈ Entries.keys properties, Normalizer.ofKey? key = none)
    (hrequired : ∀ key ∈ required, bag.lookup key ≠ some .null)
    (hfinite : bag.HasFiniteDimensions) (hdepth : 3 < depth)
    (hcoerced : PropertyBag.coerce bag = .ok out)
    (hvalid : (composed control).walkBag strict depth bag = .clean) :
    (composed control).walkBag strict depth out = .clean := by
  obtain ⟨declared, hcomposed⟩ :
      ∃ declared, composed control = .object declared required additional := by
    rw [composed, hcontrol]
    exact ⟨_, rfl⟩
  rw [hcomposed, Schema.walkBag_eq_clean_iff] at hvalid ⊢
  obtain ⟨hkeys, hentries⟩ := hvalid
  constructor
  · intro key hkey
    exact mem_keys_of_coerced hcoerced (hkeys key hkey) (hrequired key hkey)
  · intro found hfound
    obtain ⟨given, hgiven, hmade⟩ := PropertyBag.exists_given_of_coerce hcoerced hfound
    have hmem := (PropertyBag.mem_present_iff.mp hgiven).1
    exact allowsEntry_of_coerced hpattern hcontrol hcomposed hgeometry hdepth hmade
      (hfinite given hmem) (hentries given hmem)

/-- **Coercion breaks no valid bag.** Let a registry with the default depth limit, after any calls,
find nothing wrong with a bag, and let the control declare no geometry of its own. If no required
key is `null` and no dimension text overflows, then nothing is wrong with the coerced bag, and
preparing the bag gives it. -/
theorem coercion_keeps_bags_valid (hpattern : SharedSchemas.DimensionPatternIsExact)
    {properties : List (String × Schema)} {required : List String} {additional : Additional}
    {calls : List Call}
    (hafter : registry = (ofCatalog catalog ValidationOptions.defaultDepth).after calls)
    (hknown : catalog.control? type = some control)
    (hcontrol : control.schema = .object properties required additional)
    (hgeometry : ∀ key ∈ Entries.keys properties, Normalizer.ofKey? key = none)
    (hrequired : ∀ key ∈ required, bag.lookup key ≠ some .null)
    (hfinite : bag.HasFiniteDimensions)
    (hvalid : ((validateProps type strict bag).run registry).1 = [])
    (hcoerced : PropertyBag.coerce bag = .ok out) :
    ((validateProps type strict out).run registry).1 = [] ∧
      ((prepareProps type strict bag).run registry).1 = .ok out := by
  have hschema : registry.schema? type = some (composed control) := by
    rw [hafter, schema?_after_ofCatalog, hknown]
    rfl
  have hdepth : 3 < registry.maxDepth := by
    rw [hafter, (AnswersAlike.after _ calls).maxDepth]
    exact (by decide : 3 < ValidationOptions.defaultDepth)
  rw [validateProps_eq_nil_iff hschema] at hvalid
  have hclean := walkBag_eq_clean_of_coerce hpattern hcontrol hgeometry hrequired hfinite hdepth
    hcoerced hvalid
  refine ⟨(validateProps_eq_nil_iff hschema).mpr hclean, ?_⟩
  exact prepareProps_eq_ok_iff.mpr ⟨hcoerced, (ensureValidProps_eq_ok_iff hschema).mpr hclean⟩

end

/-- A slider whose width, offset and frame come to their canonical shapes. -/
theorem slider_bag_stays_valid :
    let control : Control :=
      ⟨.object [("label", .string)] ["label"] .reject, ["offset", "frame"]⟩
    let registry :=
      (ofCatalog ⟨[("slider", control)]⟩ ValidationOptions.defaultDepth).after [.warm]
    let bag : PropertyBag := [("label", .string "Volume"), ("width", .string "12.50px"),
      ("margin", .null), ("offset", .array [.int 1, .string "2", .null]),
      ("frame", .object [("left", .string "10%"), ("note", .bool true)])]
    let out : PropertyBag := [("label", .string "Volume"), ("width", .string "12.5px"),
      ("offset", .array [.float 1, .float 2]), ("frame", .object [("left", .string "10%")])]
    ((validateProps "slider" true bag).run registry).1 = [] ∧ PropertyBag.coerce bag = .ok out ∧
      ((validateProps "slider" true out).run registry).1 = [] ∧
      ((prepareProps "slider" true bag).run registry).1 = .ok out := by
  intro control registry bag out
  have hrequired : ∀ key ∈ ["label"], bag.lookup key ≠ some .null := by decide +kernel
  have hfinite : bag.HasFiniteDimensions := by decide +kernel
  have hvalid : ((validateProps "slider" true bag).run registry).1 = [] := by decide +kernel
  have hcoerced : PropertyBag.coerce bag = .ok out := by decide +kernel
  exact ⟨hvalid, hcoerced, coercion_keeps_bags_valid Expression.dimensionPatternIsExact rfl rfl
    rfl (by decide) hrequired hfinite hvalid hcoerced⟩

section

variable [SharedPatterns] {bag out : PropertyBag}

/-- **Preparing is idempotent.** If no dimension text overflows, a coerced bag is coerced to
itself. So a prepared bag is prepared to itself, by the same registry as well as by the one that is
left by the first preparation. -/
theorem preparing_is_idempotent (hfinite : bag.HasFiniteDimensions) :
    (PropertyBag.coerce bag = .ok out → PropertyBag.coerce out = .ok out) ∧
      ∀ registry type strict, ((prepareProps type strict bag).run registry).1 = .ok out →
        ((prepareProps type strict out).run registry).1 = .ok out ∧
          ((prepareProps type strict out).run
            ((prepareProps type strict bag).run registry).2).1 = .ok out := by
  refine ⟨PropertyBag.coerce_of_coerce hfinite, fun registry type strict hprepared => ?_⟩
  obtain ⟨hcoerced, haccepted⟩ := prepareProps_eq_ok_iff.mp hprepared
  have hagain := PropertyBag.coerce_of_coerce hfinite hcoerced
  have halike : registry.AnswersAlike ((prepareProps type strict bag).run registry).2 :=
    .call registry (.prepareProps type strict bag)
  have hstill := haccepted
  rw [← halike.ensureValidProps] at hstill
  exact ⟨prepareProps_eq_ok_iff.mpr ⟨hagain, haccepted⟩,
    prepareProps_eq_ok_iff.mpr ⟨hagain, hstill⟩⟩

end

/-- A length, a padding that is not a number, and a frame in their canonical shapes. -/
theorem prepared_bag_is_prepared_to_itself :
    let bag : PropertyBag := [("height", .string " +.250vh "), ("padding", .array [.string "nan"]),
      ("frame", .object [("x", .int 3), ("anchor", .string "center"), ("z", .null)])]
    let out : PropertyBag := [("height", .string "0.25vh"), ("padding", .array [.float .nan]),
      ("frame", .object [("x", .float 3), ("anchor", .string "center")])]
    bag.HasFiniteDimensions ∧ PropertyBag.coerce bag = .ok out ∧
      PropertyBag.coerce out = .ok out := by
  intro bag out
  have hfinite : bag.HasFiniteDimensions := by decide +kernel
  have hcoerced : PropertyBag.coerce bag = .ok out := by decide +kernel
  exact ⟨hfinite, hcoerced, (preparing_is_idempotent hfinite).1 hcoerced⟩

end Registry

end ControlProps
