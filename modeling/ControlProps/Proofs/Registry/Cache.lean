import ControlProps.Engine.Patterns
import ControlProps.Proofs.Registry.Calls
import Mathlib.Data.List.Dedup

/-!
# The cache of a registry

Whatever was called before, the cache holds the composed schema of each control that was asked for,
once, and nothing else. So no answer depends on it but the number of schemas that are kept.
-/

namespace ControlProps

namespace Catalog

variable [PatternEngine]

/-- A catalog has controls of exactly the types that it lists. -/
theorem mem_types_iff {catalog : Catalog} {type : String} :
    type ∈ catalog.types ↔ ∃ control, catalog.control? type = some control := by
  constructor
  · exact Entries.exists_lookup_of_mem_keys
  · rintro ⟨control, hcontrol⟩
    exact Entries.mem_keys_of_lookup hcontrol

end Catalog

namespace Registry

section

variable [SharedPatterns]

/-- Whether a cache holds composed schemas of controls of the catalog only, each once. -/
structure IsFaithful (registry : Registry) : Prop where
  nodup : (Entries.keys registry.cache).Nodup
  eq_composed : ∀ entry ∈ registry.cache,
    ∃ control, registry.catalog.control? entry.1 = some control ∧ entry.2 = composed control

variable {registry : Registry} {type key : String}

/-- A cache without entries is faithful. -/
theorem isFaithful_ofCatalog (catalog : Catalog) (maxDepth : Nat) :
    (ofCatalog catalog maxDepth).IsFaithful :=
  ⟨List.nodup_nil, nofun⟩

/-- All types in a faithful cache are those of controls. -/
theorem IsFaithful.mem_types (hfaithful : registry.IsFaithful)
    (hkey : key ∈ Entries.keys registry.cache) : key ∈ registry.catalog.types := by
  obtain ⟨entry, hentry, rfl⟩ := List.mem_map.mp hkey
  obtain ⟨control, hcontrol, _⟩ := hfaithful.eq_composed entry hentry
  exact Catalog.mem_types_iff.mpr ⟨control, hcontrol⟩

/-- The cache is left as it is, or the schema of a control that was missing is put behind it. -/
theorem remember_cases (registry : Registry) (type : String) :
    (registry.remember type = registry ∧
      (type ∈ Entries.keys registry.cache ∨ type ∉ registry.catalog.types)) ∨
    ∃ control, registry.catalog.control? type = some control ∧
      type ∉ Entries.keys registry.cache ∧
      (registry.remember type).cache = registry.cache ++ [(type, composed control)] := by
  unfold remember
  cases hcached : registry.cache.lookup type with
  | some schema =>
    exact .inl ⟨rfl, .inl (Entries.mem_keys_of_lookup hcached)⟩
  | none =>
    have hnew := Entries.lookup_eq_none_iff_notMem.mp hcached
    cases hcontrol : registry.catalog.control? type with
    | none =>
      refine .inl ⟨rfl, .inr fun hmem => ?_⟩
      obtain ⟨control, hsome⟩ := Catalog.mem_types_iff.mp hmem
      rw [hcontrol] at hsome
      contradiction
    | some control => exact .inr ⟨control, rfl, hnew, rfl⟩

/-- Remembering adds the type that is asked for, if it is that of a control. -/
theorem mem_keys_remember :
    key ∈ Entries.keys (registry.remember type).cache ↔
      key ∈ Entries.keys registry.cache ∨ key = type ∧ key ∈ registry.catalog.types := by
  rcases remember_cases registry type with ⟨hsame, hreason⟩ | ⟨control, hcontrol, _, hcache⟩
  · rw [hsame]
    refine ⟨.inl, ?_⟩
    rintro (hkey | ⟨rfl, htype⟩)
    · exact hkey
    · exact hreason.resolve_right fun hnot => hnot htype
  · have htype : type ∈ registry.catalog.types := Catalog.mem_types_iff.mpr ⟨control, hcontrol⟩
    rw [hcache, Entries.keys, List.map_append, List.mem_append]
    refine or_congr_right ⟨fun hkey => ?_, fun hkey => by simp [hkey.1]⟩
    obtain rfl := List.mem_singleton.mp hkey
    exact ⟨rfl, htype⟩

/-- What is in the cache stays there. -/
theorem cache_prefix_remember (registry : Registry) (type : String) :
    registry.cache <+: (registry.remember type).cache := by
  rcases remember_cases registry type with ⟨hsame, _⟩ | ⟨control, _, _, hcache⟩
  · have hcache : registry.cache = (registry.remember type).cache :=
      congrArg Registry.cache hsame.symm
    exact ⟨[], hcache ▸ List.append_nil _⟩
  · rw [hcache]
    exact List.prefix_append _ _

/-- Remembering keeps a cache faithful. -/
theorem IsFaithful.remember (hfaithful : registry.IsFaithful) (type : String) :
    (registry.remember type).IsFaithful := by
  rcases remember_cases registry type with ⟨hsame, _⟩ | ⟨control, hcontrol, hnew, hcache⟩
  · rwa [hsame]
  · constructor
    · rw [hcache, Entries.keys, List.map_append, List.nodup_append]
      refine ⟨hfaithful.nodup, by simp, ?_⟩
      rintro key hkey _ hlast rfl
      obtain rfl := List.mem_singleton.mp hlast
      exact hnew hkey
    · intro entry hentry
      rw [remember_catalog]
      rw [hcache, List.mem_append, List.mem_singleton] at hentry
      rcases hentry with hold | rfl
      · exact hfaithful.eq_composed entry hold
      · exact ⟨control, hcontrol, rfl⟩

/-- Remembering one after the other adds the types that are those of controls. -/
theorem mem_keys_foldl_remember {types : List String} :
    key ∈ Entries.keys (types.foldl remember registry).cache ↔
      key ∈ Entries.keys registry.cache ∨ key ∈ types ∧ key ∈ registry.catalog.types := by
  induction types generalizing registry with
  | nil => simp
  | cons type rest ih =>
    rw [List.foldl_cons, ih, mem_keys_remember, remember_catalog, List.mem_cons, or_assoc,
      ← or_and_right]

/-- What is in the cache stays there, however many schemas are remembered. -/
theorem cache_prefix_foldl_remember (registry : Registry) (types : List String) :
    registry.cache <+: (types.foldl remember registry).cache := by
  induction types generalizing registry with
  | nil => exact List.prefix_refl _
  | cons type rest ih => exact (cache_prefix_remember registry type).trans (ih _)

/-- Remembering many schemas keeps a cache faithful. -/
theorem IsFaithful.foldl_remember (hfaithful : registry.IsFaithful) (types : List String) :
    (types.foldl Registry.remember registry).IsFaithful := by
  induction types generalizing registry with
  | nil => exact hfaithful
  | cons type rest ih => exact ih (hfaithful.remember type)

/-- After several calls the registry remembers what they have asked for, one after the other. -/
theorem after_eq_foldl_remember (registry : Registry) (calls : List Call) :
    registry.after calls =
      (calls.flatMap (Call.lookups registry.catalog)).foldl remember registry := by
  induction calls generalizing registry with
  | nil => rfl
  | cons call rest ih =>
    have hcatalog : (call.answer.run registry).2.catalog = registry.catalog :=
      (AnswersAlike.call registry call).catalog
    have hafter : registry.after (call :: rest) = (call.answer.run registry).2.after rest := rfl
    rw [hafter, ih, hcatalog, List.flatMap_cons, List.foldl_append, Call.answer_run_snd]

/-- Warming up a faithful cache fills it: it then holds one schema for each type. -/
theorem warm_run_fst (hfaithful : registry.IsFaithful) :
    (warm.run registry).1 = registry.catalog.types.dedup.length := by
  have hkeys : ∀ key, key ∈
      Entries.keys (registry.catalog.types.foldl remember registry).cache ↔
        key ∈ registry.catalog.types.dedup := by
    intro key
    rw [mem_keys_foldl_remember, and_self, List.mem_dedup]
    exact ⟨fun h => h.elim hfaithful.mem_types id, .inr⟩
  have hperm : (Entries.keys (registry.catalog.types.foldl remember registry).cache).Perm
      registry.catalog.types.dedup :=
    (List.perm_ext_iff_of_nodup (hfaithful.foldl_remember _).nodup (List.nodup_dedup _)).mpr hkeys
  have hlength := hperm.length_eq
  rw [Entries.keys, List.length_map] at hlength
  rw [warm_run]
  exact hlength

/-- Faithful registries that answer alike differ at most in how many schemas they keep. -/
theorem AnswersAlike.answer {a b : Registry} (halike : a.AnswersAlike b) (ha : a.IsFaithful)
    (hb : b.IsFaithful) {call : Call} (hcall : call ≠ .cachedCount) :
    (call.answer.run b).1 = (call.answer.run a).1 := by
  cases call with
  | schemaFor type =>
    have hschema : ((schemaFor type).run b).1 = ((schemaFor type).run a).1 := by
      rw [schemaFor_run, schemaFor_run, halike.schema?]
    exact congrArg Answer.schema hschema
  | cachedCount => exact absurd rfl hcall
  | warm =>
    have hcount : (warm.run b).1 = (warm.run a).1 := by
      rw [warm_run_fst ha, warm_run_fst hb, halike.catalog]
    exact congrArg Answer.count hcount
  | validateProps type strict bag =>
    exact congrArg Answer.records (halike.validateProps type strict bag)
  | ensureValidProps type strict bag =>
    exact congrArg Answer.verdict (halike.ensureValidProps type strict bag)
  | prepareProps type strict bag =>
    exact congrArg Answer.prepared (halike.prepareProps type strict bag)
  | validateFrameChild strict frame =>
    have hrecords : b.validateFrameChild strict frame = a.validateFrameChild strict frame := by
      rw [validateFrameChild, validateFrameChild, halike.maxDepth]
    exact congrArg Answer.records hrecords
  | ensureValidFrameChild strict frame =>
    have hverdict :
        b.ensureValidFrameChild strict frame = a.ensureValidFrameChild strict frame := by
      rw [ensureValidFrameChild, ensureValidFrameChild, halike.maxDepth]
    exact congrArg Answer.verdict hverdict

/-- **The cache is transparent.** After any calls a registry gives each answer that it gave at
first, only the number of kept schemas aside. It keeps one schema for each control that was asked
for, composed from the catalog: an unknown type, the child of a frame and a bag that cannot be
coerced leave no trace. It drops none of them, and warming it up always keeps all, which are as many
as there are controls if no two are of one type. -/
theorem cache_is_transparent (catalog : Catalog) (maxDepth : Nat) (calls : List Call) :
    let fresh := ofCatalog catalog maxDepth
    let registry := fresh.after calls
    (∀ call : Call, call ≠ .cachedCount →
      (call.answer.run registry).1 = (call.answer.run fresh).1) ∧
    (∀ type schema, (type, schema) ∈ registry.cache → ∃ control,
      catalog.control? type = some control ∧ schema = control.schema.compose
        [SharedSchemas.layout, SharedSchemas.universal, SharedSchemas.catchAll control.hints]) ∧
    (Entries.keys registry.cache).Nodup ∧
    (∀ type, type ∈ Entries.keys registry.cache ↔
      type ∈ catalog.types ∧ ∃ call ∈ calls, type ∈ call.lookups catalog) ∧
    (∀ more, (cachedCount.run registry).1 ≤ (cachedCount.run (registry.after more)).1) ∧
    (catalog.types.Nodup → (warm.run registry).1 = catalog.size) := by
  intro fresh registry
  have hregistry : registry = (calls.flatMap (Call.lookups catalog)).foldl remember fresh :=
    after_eq_foldl_remember fresh calls
  have halike : fresh.AnswersAlike registry := .after fresh calls
  have hfresh : fresh.IsFaithful := isFaithful_ofCatalog catalog maxDepth
  have hfaithful : registry.IsFaithful := by
    rw [hregistry]
    exact hfresh.foldl_remember _
  have hsame : registry.catalog = catalog := halike.catalog
  refine ⟨fun call hcall => halike.answer hfresh hfaithful hcall, ?_, hfaithful.nodup, ?_, ?_, ?_⟩
  · intro type schema hentry
    obtain ⟨control, hcontrol, hschema⟩ := hfaithful.eq_composed _ hentry
    rw [hsame] at hcontrol
    exact ⟨control, hcontrol, hschema⟩
  · intro type
    rw [hregistry, mem_keys_foldl_remember, List.mem_flatMap, and_comm (b := type ∈ _)]
    exact or_iff_right List.not_mem_nil
  · intro more
    rw [after_eq_foldl_remember registry more]
    exact (cache_prefix_foldl_remember registry _).length_le
  · intro hcatalog
    rw [warm_run_fst hfaithful, hsame, hcatalog.dedup, Catalog.types, Entries.keys,
      List.length_map]
    rfl

end

/-- Of these calls only the last one asks for the schema of a control and gets as far as that. -/
theorem failed_calls_leave_no_trace :
    let button : Control := ⟨.object [("label", .string)] [] .reject, ["icon"]⟩
    let catalog := (Catalog.empty.insert "button" button).insert "slider" ⟨.any, []⟩
    let calls := [.schemaFor "dial", .prepareProps "slider" true [("padding", .bool true)],
      .validateFrameChild true [("left", .bool true)],
      .validateProps "button" false [("label", .int 1)]]
    let registry := (ofCatalog catalog ValidationOptions.defaultDepth).after calls
    "button" ∈ Entries.keys registry.cache ∧ "slider" ∉ Entries.keys registry.cache ∧
      "dial" ∉ Entries.keys registry.cache ∧
      catalog.types.Nodup ∧ (warm.run registry).1 = 2 := by
  intro button catalog calls registry
  obtain ⟨_, _, _, hkeys, _, hwarm⟩ :=
    cache_is_transparent catalog ValidationOptions.defaultDepth calls
  have hcatalog : catalog.types.Nodup := by decide +kernel
  refine ⟨(hkeys _).mpr ?_, fun h => absurd ((hkeys _).mp h) ?_,
    fun h => absurd ((hkeys _).mp h) ?_, hcatalog, hwarm hcatalog⟩ <;> decide +kernel

end Registry

end ControlProps
