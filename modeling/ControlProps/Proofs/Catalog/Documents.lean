import ControlProps.Engine.Patterns
import ControlProps.Proofs.Decoding.Whole
import ControlProps.Proofs.Schema.Faults

/-!
# Schemas of a catalog document

The schemas of a document are read in order, so the first one that cannot be read is told, under
the name of its control.
-/

namespace ControlProps

namespace Catalog

open Dialect

section

variable [PatternEngine]

/-- Documents are refused for the first schema that cannot be read. -/
theorem addDocument_eq_error_iff {catalog : Catalog} {document : CatalogDocument}
    {error : CatalogError} :
    addDocument catalog document = .error error ↔
      ∃ before control after, document = before ++ control :: after ∧
        (∀ earlier ∈ before, ∃ schema, Schema.ofJson earlier.2.schema = .ok schema) ∧
        ∃ cause, Schema.ofJson control.2.schema = .error cause ∧
          error = .schema control.1 cause := by
  induction document generalizing catalog with
  | nil => simp [addDocument]
  | cons entry rest ih =>
    rw [exists_split_cons_iff, addDocument, bind_eq_error_iff, mapError_eq_error_iff]
    refine or_congr ?_ ⟨?_, ?_⟩
    · simp only [eq_comm]
    · rintro ⟨schema, hschema, hrest⟩
      exact ⟨⟨schema, mapError_eq_ok_iff.mp hschema⟩, ih.mp hrest⟩
    · rintro ⟨⟨schema, hschema⟩, hrest⟩
      exact ⟨schema, mapError_eq_ok_iff.mpr hschema, ih.mpr hrest⟩

/-- All schemas of a document that gives a catalog can be read. -/
theorem exists_schema_of_addDocument {catalog found : Catalog} {document : CatalogDocument}
    (hread : addDocument catalog document = .ok found) :
    ∀ control ∈ document, ∃ schema, Schema.ofJson control.2.schema = .ok schema := by
  induction document generalizing catalog with
  | nil => exact nofun
  | cons entry rest ih =>
    obtain ⟨type, control⟩ := entry
    obtain ⟨schema, hschema, hrest⟩ := bind_eq_ok_iff.mp hread
    exact List.forall_mem_cons.mpr ⟨⟨schema, mapError_eq_ok_iff.mp hschema⟩, ih hrest⟩

variable {document : CatalogDocument}

/-- A document gives no catalog exactly if one of its schemas is malformed. -/
theorem exists_error_ofDocument_iff :
    (∃ error, ofDocument document = .error error) ↔
      ∃ control ∈ document, ∃ pointer, FaultyAt .schema control.2.schema pointer := by
  simp only [← Schema.exists_error_ofJson_iff]
  constructor
  · rintro ⟨error, herror⟩
    obtain ⟨before, control, after, rfl, _, cause, hcause, _⟩ :=
      addDocument_eq_error_iff.mp herror
    exact ⟨control, by simp, cause, hcause⟩
  · rintro ⟨control, hcontrol, cause, hcause⟩
    cases hread : ofDocument document with
    | error error => exact ⟨error, rfl⟩
    | ok catalog =>
      obtain ⟨schema, hschema⟩ := exists_schema_of_addDocument hread control hcontrol
      exact absurd (hcause.symm.trans hschema) nofun

/-- The error of a document names its first control whose schema is malformed, and its place stands
for a malformed part of this schema. -/
theorem first_malformed_of_ofDocument
    (hkeys : ∀ control ∈ document, control.2.schema.hasDistinctKeys = true) {error : CatalogError}
    (herror : ofDocument document = .error error) :
    ∃ before type control after cause, document = before ++ (type, control) :: after ∧
      (∀ earlier ∈ before, ∀ pointer, ¬FaultyAt .schema earlier.2.schema pointer) ∧
      error = .schema type cause ∧ MalformedAt control.schema cause.place := by
  obtain ⟨before, ⟨type, control⟩, after, rfl, hbefore, cause, hcause, rfl⟩ :=
    addDocument_eq_error_iff.mp herror
  refine ⟨before, type, control, after, cause, rfl, fun earlier hearlier => ?_, rfl, ?_⟩
  · obtain ⟨schema, hschema⟩ := hbefore earlier hearlier
    exact (Schema.reads_ofJson earlier.2.schema).sound schema hschema
  · exact Schema.malformedAt_of_ofJson (hkeys (type, control) (by simp)) hcause

/-- A schema is only told where a document is decoded, and it is one of this document. -/
theorem exists_malformed_of_schema_error {decoded : Except DecodeError CatalogDocument}
    (htables : ∀ document, decoded = .ok document →
      ∀ control ∈ document, control.2.schema.hasDistinctKeys = true)
    {type : String} {cause : SchemaError}
    (herror : (decoded.mapError .decode >>= ofDocument) = .error (.schema type cause)) :
    ∃ document control, decoded = .ok document ∧ (type, control) ∈ document ∧
      MalformedAt control.schema cause.place := by
  cases decoded with
  | error error => exact CatalogError.noConfusion (Except.error.inj herror)
  | ok document =>
    obtain ⟨before, first, control, after, found, rfl, _, hfirst, hplace⟩ :=
      first_malformed_of_ofDocument (htables _ rfl) herror
    obtain ⟨rfl, rfl⟩ := CatalogError.schema.inj hfirst
    exact ⟨_, control, rfl, by simp, hplace⟩

/-- Both loaders tell a malformed part of a schema, even where the text repeats keys. -/
theorem malformedAt_of_schema_error {type : String} {cause : SchemaError} :
    (∀ text, ofText text = .error (.schema type cause) →
        ∃ document control, decodeFirst Reading.decodeCatalog text = .ok document ∧
          (type, control) ∈ document ∧ MalformedAt control.schema cause.place) ∧
      ∀ json, ofJson json = .error (.schema type cause) →
        ∃ document control, decodeValue Reading.decodeCatalog json = .ok document ∧
          (type, control) ∈ document ∧ MalformedAt control.schema cause.place := by
  have htables {reading : Reading} {document : CatalogDocument}
      (hdecode : Reading.decodeCatalog reading = .ok document) :=
    (Reading.isWhole_isContainer_of_decodeCatalog hdecode).2.2
  constructor
  · exact fun text => exists_malformed_of_schema_error fun document => htables
  · refine fun json => exists_malformed_of_schema_error fun document hdecode => ?_
    exact htables (mapError_eq_ok_iff.mp hdecode)

/--
A schema document is refused exactly if a part of it that is reached is malformed. The place of the
error stands for such a part, whatever its keys are, and different parts have different places. A
catalog document is refused exactly if one of its schemas is, for the first such control and with a
place in its schema. Objects have no repeated keys here, and none have those in the schemas of a
document that is decoded, so both loaders tell a malformed part whatever they are given.
-/
theorem schema_errors_point_at_faults {schema : Json} (hschema : schema.hasDistinctKeys = true)
    (hdocument : ∀ control ∈ document, control.2.schema.hasDistinctKeys = true) :
    ((∃ error, Schema.ofJson schema = .error error) ↔
        ∃ pointer, FaultyAt .schema schema pointer) ∧
      (∀ error, Schema.ofJson schema = .error error → MalformedAt schema error.place) ∧
      (∀ first second : SchemaError,
        (∃ expected found, Reaches .schema schema first.pointer expected found) →
        (∃ expected found, Reaches .schema schema second.pointer expected found) →
        first.place = second.place → first.pointer = second.pointer) ∧
      ((∃ error, ofDocument document = .error error) ↔
        ∃ control ∈ document, ∃ pointer, FaultyAt .schema control.2.schema pointer) ∧
      (∀ error, ofDocument document = .error error →
        ∃ before type control after cause, document = before ++ (type, control) :: after ∧
          (∀ earlier ∈ before, ∀ pointer, ¬FaultyAt .schema earlier.2.schema pointer) ∧
          error = .schema type cause ∧ MalformedAt control.schema cause.place) ∧
      ∀ type cause,
        (∀ text, ofText text = .error (.schema type cause) →
          ∃ document control, decodeFirst Reading.decodeCatalog text = .ok document ∧
            (type, control) ∈ document ∧ MalformedAt control.schema cause.place) ∧
        ∀ json, ofJson json = .error (.schema type cause) →
          ∃ document control, decodeValue Reading.decodeCatalog json = .ok document ∧
            (type, control) ∈ document ∧ MalformedAt control.schema cause.place := by
  refine ⟨Schema.exists_error_ofJson_iff, fun _ => Schema.malformedAt_of_ofJson hschema,
    ?_, exists_error_ofDocument_iff, fun _ => first_malformed_of_ofDocument hdocument,
    fun _ _ => malformedAt_of_schema_error⟩
  rintro first second ⟨_, _, hfirst⟩ ⟨_, _, hsecond⟩ hplace
  have hpointer := pointerOf?_place_of_reaches hfirst
  rw [hplace, pointerOf?_place_of_reaches hsecond] at hpointer
  exact (Option.some.inj hpointer).symm

/-- A schema with an unknown type under a key with a slash. -/
def slashedSchema : Json :=
  .object [("type", .string "object"),
    ("properties", .object [("a/b", .object [("type", .string "text")])])]

/-- A document in which this schema stands second. -/
def slashedDocument : CatalogDocument :=
  [("plain", ⟨.bool true, []⟩), ("slashed", ⟨slashedSchema, []⟩)]

end

/-- The error of the schema stands for the unknown type, and the one of the document names its
control. -/
theorem slashed_schema_error_points_at_type :
    MalformedAt slashedSchema "/properties/a~1b/type" ∧
      ∃ before type control after cause, slashedDocument = before ++ (type, control) :: after ∧
        (∀ earlier ∈ before, ∀ pointer, ¬FaultyAt .schema earlier.2.schema pointer) ∧
        CatalogError.schema "slashed" ⟨["properties", "a/b", "type"], .unknownType "text"⟩ =
          .schema type cause ∧
        MalformedAt control.schema cause.place := by
  have hschema : slashedSchema.hasDistinctKeys = true := by decide
  have hdocument : ∀ control ∈ slashedDocument, control.2.schema.hasDistinctKeys = true :=
    List.forall_mem_cons.mpr ⟨rfl, List.forall_mem_singleton.mpr hschema⟩
  obtain ⟨_, hplace, _, _, hfirst, _⟩ := schema_errors_point_at_faults hschema hdocument
  have hwritten : SchemaError.place ⟨["properties", "a/b", "type"], .unknownType "text"⟩ =
      "/properties/a~1b/type" := by decide +kernel
  exact ⟨hwritten ▸ hplace _ rfl, hfirst _ rfl⟩

end Catalog

end ControlProps
