import ControlProps.Engine.Patterns
import ControlProps.Proofs.Catalog.Documents
import ControlProps.Proofs.Decoding.Places
import ControlProps.Proofs.Json.Prefixes

/-!
# Catalogs from texts

A text gives the catalog of the document that it begins with. Where it is one document, this is the
catalog of the value that it spells.
-/

namespace ControlProps

/-- The error without a place in a text. -/
def CatalogError.withoutPlace : CatalogError → CatalogError
  | decode cause => .decode cause.withoutPlace
  | schema control cause => .schema control cause

namespace Catalog

section

variable [PatternEngine] {text front : String} {catalog : Catalog}

/-- A text that gives a catalog begins with an array or object, behind which is the rest. -/
theorem exists_first_of_ofText (htext : ofText text = .ok catalog) :
    ∃ reading behind, Reading.first Reading.levelLimit text = (reading, some behind) ∧
      reading.IsWhole ∧ reading.IsContainer := by
  obtain ⟨document, hdocument, _⟩ := bind_eq_ok_iff.mp htext
  obtain ⟨hwhole, hcontainer, _⟩ :=
    Reading.isWhole_isContainer_of_decodeCatalog (mapError_eq_ok_iff.mp hdocument)
  obtain ⟨behind, hbehind⟩ :=
    Option.isSome_iff_exists.mp ((Reading.isSome_first_iff Reading.levelLimit text).mpr hwhole)
  exact ⟨Reading.ofText text, behind, Prod.ext rfl hbehind, hwhole, hcontainer⟩

/-- Texts with one first value give one catalog. -/
theorem ofText_congr {other : String} (hsame : Reading.ofText text = Reading.ofText other) :
    ofText text = ofText other := by
  rw [ofText, ofText, decodeFirst, decodeFirst, hsame]

/-- Whatever is added to a text that gives a catalog is left alone. -/
theorem ofText_append (htext : ofText text = .ok catalog) (back : String) :
    ofText (text ++ back) = .ok catalog := by
  obtain ⟨reading, behind, hfirst, _, hcontainer⟩ := exists_first_of_ofText htext
  obtain ⟨used, hused, hback⟩ := Reading.first_append hfirst hcontainer
  have hsame := hback (behind.rest ++ back.toList)
  rw [← List.append_assoc, ← hused, ← String.toList_append, String.ofList_toList] at hsame
  rw [← htext]
  exact ofText_congr (by rw [Reading.ofText, Reading.ofText, hfirst, hsame])

/--
A text gives a catalog exactly if it begins with a document that does. It is a document itself only
if what follows is blank.
-/
theorem text_accepted_iff (text : String) (catalog : Catalog) :
    ofText text = .ok catalog ↔
      ∃ front back document, text = front ++ back ∧ Json.parse front = .ok document ∧
        ofText front = .ok catalog ∧ ((∃ whole, Json.parse text = .ok whole) ↔
          ∀ c ∈ back.toList, Cursor.isBlankBetween c = true) := by
  constructor
  · intro htext
    obtain ⟨reading, behind, hfirst, ⟨document, hdocument⟩, hcontainer⟩ :=
      exists_first_of_ofText htext
    obtain ⟨used, hused, hback⟩ := Reading.first_append hfirst hcontainer
    -- what the first value takes off the text is a document by itself
    have hfront := hback []
    rw [List.append_nil] at hfront
    refine ⟨String.ofList used, String.ofList behind.rest, document, ?_, ?_, ?_, ?_⟩
    · rw [← String.ofList_append, ← hused, String.ofList_toList]
    · refine Json.parse_eq_ok_iff.mpr ⟨?_, _, congrArg Prod.snd hfront, nofun⟩
      rw [Reading.ofText, hfront]
      exact hdocument
    · rw [← htext]
      exact ofText_congr (by rw [Reading.ofText, Reading.ofText, hfirst, hfront])
    · simp only [Json.parse_eq_ok_iff, Reading.ofText, hfirst, String.toList_ofList]
      constructor
      · rintro ⟨_, _, _, hbehind, hblank⟩
        obtain rfl := Option.some.inj hbehind
        exact hblank
      · exact fun hblank => ⟨document, hdocument, behind, rfl, hblank⟩
  · rintro ⟨front, back, document, rfl, _, hfront, _⟩
    exact ofText_append hfront back

end

/-- A catalog is read although words follow the document, so that the text is no document. -/
theorem words_behind_document_are_ignored :
    (∃ catalog, ofText "\x7b\"controls\":\x7b\x7d\x7d trailing" = .ok catalog) ∧
      ¬∃ whole, Json.parse "\x7b\"controls\":\x7b\x7d\x7d trailing" = .ok whole := by
  rw [← toBool_eq_true_iff, ← toBool_eq_true_iff]
  decide +kernel

section Loaders

variable {text : String} {document : Json} (hparse : Json.parse text = .ok document)
  (hkeys : (Reading.ofText text).hasDistinctKeys = true)

include hparse hkeys

/-- A text and its value are decoded alike, but for the place of an error in the text. -/
theorem decodeValue_of_parse :
    decodeValue Reading.decodeCatalog document =
      (decodeFirst Reading.decodeCatalog text).mapError DecodeError.withoutPlace := by
  have hjson := (Json.parse_eq_ok_iff.mp hparse).1
  rw [decodeValue, decodeFirst, ← Reading.unplaced_eq_ofJson hjson hkeys]
  exact Reading.isPlaceless_decodeCatalog _

variable [PatternEngine]

/-- A text gives the same catalog as its value, or the same error but for a place in the text. -/
theorem ofJson_of_parse :
    ofJson document = (ofText text).mapError CatalogError.withoutPlace := by
  rw [ofJson, ofText, decodeValue_of_parse hparse hkeys]
  cases decodeFirst Reading.decodeCatalog text with
  | error cause => rfl
  | ok found =>
    change ofDocument found = (ofDocument found).mapError CatalogError.withoutPlace
    cases hfound : ofDocument found with
    | ok catalog => rfl
    | error error =>
      -- what is decoded can only be refused for a schema, which has no place in the text
      obtain ⟨_, _, _, _, _, _, _, rfl⟩ := addDocument_eq_error_iff.mp hfound
      rfl

/--
A text that is one document without repeated keys gives a catalog exactly if the value that it
spells does, and the same one. Of schemas that cannot be read, both tell the same one with the same
error; of data that cannot be decoded, both tell the same error but for its place in the text.
-/
theorem loaders_agree :
    (∀ catalog, ofText text = .ok catalog ↔ ofJson document = .ok catalog) ∧
      (∀ control cause, ofText text = .error (.schema control cause) ↔
        ofJson document = .error (.schema control cause)) ∧
      ∀ cause, (∃ placed, ofText text = .error (.decode placed) ∧ placed.withoutPlace = cause) ↔
        ofJson document = .error (.decode cause) := by
  rw [ofJson_of_parse hparse hkeys]
  cases ofText text with
  | ok catalog => simp [Except.mapError]
  | error error =>
    cases error with
    | decode cause => simp [Except.mapError, CatalogError.withoutPlace]
    | schema control cause => simp [Except.mapError, CatalogError.withoutPlace]

end Loaders

/-- A document of one control, which is given as the list of its fields. -/
def listedControl : String :=
  "\x7b\"controls\":\x7b\"slider\":[\x7b\"type\":\"object\"\x7d,[\"label\"]]\x7d\x7d"

/-- From a text or from its value, this gives one catalog. -/
theorem loaders_agree_on_listed_control :
    ∃ document catalog, Json.parse listedControl = .ok document ∧
      ofText listedControl = .ok catalog ∧ ofJson document = .ok catalog := by
  have hkeys : (Reading.ofText listedControl).hasDistinctKeys = true := by decide +kernel
  have hparsed : (Json.parse listedControl).toBool = true := by decide +kernel
  have haccepted : (ofText listedControl).toBool = true := by decide +kernel
  obtain ⟨document, hparse⟩ := toBool_eq_true_iff.mp hparsed
  obtain ⟨catalog, hread⟩ := toBool_eq_true_iff.mp haccepted
  exact ⟨document, catalog, hparse, hread, ((loaders_agree hparse hkeys).1 catalog).mp hread⟩

end Catalog

end ControlProps
