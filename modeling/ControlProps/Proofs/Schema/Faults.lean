import ControlProps.Proofs.Except
import ControlProps.Proofs.Json.Parts
import ControlProps.Proofs.Schema.Dialect

/-!
# Where schema documents are malformed

`Dialect.parts` says which parts of a document are looked at, and what each of them has to be. The
reading of a document fails exactly if one of the parts that are reached in this way is not what it
has to be, and its error points at such a part.
-/

namespace ControlProps

namespace Dialect

/-- What a part of a schema document has to be. -/
inductive Expectation where
  | schema
  | branches
  | literals
  | type
  | typeName
  | bound
  | count
  | pattern
  | properties
  | required
  | requiredKey
  | additional
  deriving DecidableEq

/-- Whether a part is what it has to be. In place of a bound or a count, `null` stands for none. -/
def Expectation.isMet [PatternEngine] : Expectation → Json → Bool
  | schema, .bool true | schema, .object _ => true
  | branches, .array _ | literals, .array _ => true
  | type, .array _ => true
  | type, .string name | typeName, .string name => (Kind.ofName? name).isSome
  | bound, .null | count, .null => true
  | bound, found => found.number?.isSome
  | count, found => found.count?.isSome
  | pattern, .string source => (Pattern.compile? source).isSome
  | properties, .object _ => true
  | required, .array _ => true
  | requiredKey, .string _ => true
  | additional, .bool _ | additional, .object _ => true
  | _, _ => false

/-- A part of a value that is looked at: the step to it, what it has to be, and what it is. -/
structure Part where
  token : String
  expectation : Expectation
  found : Json

/-- The part under a keyword, if the keyword is present. -/
def partUnder (expectation : Expectation) (keyword : String) (members : List (String × Json)) :
    List Part :=
  match members.lookup keyword with
  | none => []
  | some found => [⟨keyword, expectation, found⟩]

/-- The items of a list, the first of which stands at the given index. -/
def itemsFrom (expectation : Expectation) (index : Nat) : List Json → List Part
  | [] => []
  | found :: rest => ⟨toString index, expectation, found⟩ :: itemsFrom expectation (index + 1) rest

/-- The keywords that belong to a kind. -/
def typedParts (members : List (String × Json)) : Kind → List Part
  | .number | .integer => partUnder .bound "minimum" members ++ partUnder .bound "maximum" members
  | .string => partUnder .pattern "pattern" members
  | .array =>
    partUnder .schema "items" members ++
      (partUnder .count "minItems" members ++ partUnder .count "maxItems" members)
  | .object =>
    partUnder .properties "properties" members ++
      (partUnder .required "required" members ++
        partUnder .additional "additionalProperties" members)
  | .null | .boolean => []

/-- The type of an object and the keywords that belong to it, if it is a single one. -/
def typeParts (members : List (String × Json)) (type : Json) : List Part :=
  ⟨"type", .type, type⟩ ::
    match type.string?.bind Kind.ofName? with
    | some kind => typedParts members kind
    | none => []

/-- The parts of a schema object: `anyOf`, else `oneOf`, else `enum`, else what `type` decides. -/
def schemaParts (members : List (String × Json)) : List Part :=
  match members.lookup "anyOf", members.lookup "oneOf", members.lookup "enum",
      members.lookup "type" with
  | some union, _, _, _ => [⟨"anyOf", .branches, union⟩]
  | none, some union, _, _ => [⟨"oneOf", .branches, union⟩]
  | none, none, some literals, _ => [⟨"enum", .literals, literals⟩]
  | none, none, none, some type => typeParts members type
  | none, none, none, none => []

/-- The parts that are looked at in a value that is expected to be something. -/
def parts : Expectation → Json → List Part
  | .schema, .object members => schemaParts members
  | .branches, .array branches => itemsFrom .schema 0 branches
  | .type, .array names => itemsFrom .typeName 0 names
  | .properties, .object members => members.map fun member => ⟨member.1, .schema, member.2⟩
  | .required, .array keys => itemsFrom .requiredKey 0 keys
  | _, _ => []

/-- The parts that are reached from a value, with what they have to be and the way to them. -/
inductive Reaches : Expectation → Json → Pointer → Expectation → Json → Prop
  | here (expectation : Expectation) (value : Json) :
    Reaches expectation value [] expectation value
  | part {expectation expected : Expectation} {value found : Json} {part : Part}
    {pointer : Pointer} (hpart : part ∈ parts expectation value)
    (hrest : Reaches part.expectation part.found pointer expected found) :
    Reaches expectation value (part.token :: pointer) expected found

/-- Whether a part that is reached under a pointer is not what it has to be. -/
def FaultyAt [PatternEngine] (expectation : Expectation) (value : Json) (pointer : Pointer) :
    Prop :=
  ∃ expected found, Reaches expectation value pointer expected found ∧ expected.isMet found = false

variable {expectation : Expectation} {value : Json} {pointer : Pointer}

/-- A value is faulty if it is not what it has to be or if one of its parts is faulty. -/
theorem faultyAt_iff [PatternEngine] :
    FaultyAt expectation value pointer ↔
      pointer = [] ∧ expectation.isMet value = false ∨
        ∃ part ∈ parts expectation value, ∃ rest, pointer = part.token :: rest ∧
          FaultyAt part.expectation part.found rest := by
  constructor
  · rintro ⟨expected, found, hreached, hunmet⟩
    cases hreached with
    | here => exact .inl ⟨rfl, hunmet⟩
    | part hpart hrest => exact .inr ⟨_, hpart, _, rfl, _, _, hrest, hunmet⟩
  · rintro (⟨rfl, hunmet⟩ | ⟨part, hpart, rest, rfl, expected, found, hrest, hunmet⟩)
    · exact ⟨_, _, .here _ _, hunmet⟩
    · exact ⟨_, _, .part hpart hrest, hunmet⟩

/-- A part under a keyword is what a look-up finds. -/
theorem lookup_of_mem_partUnder {members : List (String × Json)} {keyword : String} {part : Part}
    (hpart : part ∈ partUnder expectation keyword members) :
    part.token = keyword ∧ members.lookup keyword = some part.found := by
  unfold partUnder at hpart
  split at hpart
  · contradiction
  · rename_i found hfound
    obtain rfl := List.mem_singleton.mp hpart
    exact ⟨rfl, hfound⟩

/-- A part that belongs to a kind stands under a keyword. -/
theorem lookup_of_mem_typedParts {members : List (String × Json)} {kind : Kind} {part : Part}
    (hpart : part ∈ typedParts members kind) :
    part.token ≠ "" ∧ members.lookup part.token = some part.found := by
  have hunder {expectation : Expectation} {keyword : String} (hkeyword : keyword ≠ "")
      (hpart : part ∈ partUnder expectation keyword members) :
      part.token ≠ "" ∧ members.lookup part.token = some part.found := by
    obtain ⟨htoken, hfound⟩ := lookup_of_mem_partUnder hpart
    exact ⟨htoken ▸ hkeyword, htoken ▸ hfound⟩
  cases kind with
  | null => contradiction
  | boolean => contradiction
  | string => exact hunder (by decide) hpart
  | number | integer =>
    rcases List.mem_append.mp hpart with hpart | hpart
    · exact hunder (by decide) hpart
    · exact hunder (by decide) hpart
  | array | object =>
    rcases List.mem_append.mp hpart with hpart | hpart
    · exact hunder (by decide) hpart
    · rcases List.mem_append.mp hpart with hpart | hpart
      · exact hunder (by decide) hpart
      · exact hunder (by decide) hpart

/-- A part of a schema object stands under a keyword. -/
theorem lookup_of_mem_schemaParts {members : List (String × Json)} {part : Part}
    (hpart : part ∈ schemaParts members) :
    part.token ≠ "" ∧ members.lookup part.token = some part.found := by
  unfold schemaParts at hpart
  split at hpart
  · rename_i hany
    obtain rfl := List.mem_singleton.mp hpart
    exact ⟨by simp, hany⟩
  · rename_i hone
    obtain rfl := List.mem_singleton.mp hpart
    exact ⟨by simp, hone⟩
  · rename_i henum
    obtain rfl := List.mem_singleton.mp hpart
    exact ⟨by simp, henum⟩
  · rename_i htype
    rcases List.mem_cons.mp hpart with rfl | hpart
    · exact ⟨by simp, htype⟩
    · split at hpart
      · exact lookup_of_mem_typedParts hpart
      · contradiction
  · contradiction

/-- An item stands under its index. -/
theorem exists_index_of_mem_itemsFrom {index : Nat} {items : List Json} {part : Part}
    (hpart : part ∈ itemsFrom expectation index items) :
    ∃ place, part.token = toString (index + place) ∧ items[place]? = some part.found := by
  induction items generalizing index with
  | nil => contradiction
  | cons item rest ih =>
    rcases List.mem_cons.mp hpart with rfl | hpart
    · exact ⟨0, rfl, rfl⟩
    · obtain ⟨place, htoken, hfound⟩ := ih hpart
      exact ⟨place + 1, by rw [htoken, Nat.add_right_comm, Nat.add_assoc], hfound⟩

/-- An item that is looked at is found by a step of a pointer. -/
theorem step?_of_mem_itemsFrom {items : List Json} {part : Part}
    (hkeys : (Json.array items).hasDistinctKeys = true)
    (hpart : part ∈ itemsFrom expectation 0 items) :
    Pointer.step? part.token (.array items) = some part.found ∧
      part.found.hasDistinctKeys = true := by
  obtain ⟨place, htoken, hfound⟩ := exists_index_of_mem_itemsFrom hpart
  rw [Nat.zero_add] at htoken
  refine ⟨?_, Json.hasDistinctKeys_array_iff.mp hkeys _ (List.mem_of_getElem? hfound)⟩
  rw [Pointer.step?, htoken, Pointer.index?_toString]
  exact hfound

/-- A part that is looked at is found by a step of a pointer, if no key is repeated. -/
theorem step?_of_mem_parts {part : Part} (hkeys : value.hasDistinctKeys = true)
    (hpart : part ∈ parts expectation value) :
    Pointer.step? part.token value = some part.found ∧ part.found.hasDistinctKeys = true := by
  unfold parts at hpart
  split at hpart
  · rename_i members
    have hfound := (lookup_of_mem_schemaParts hpart).2
    have hmembers := (Json.hasDistinctKeys_object_iff.mp hkeys).2
    exact ⟨hfound, hmembers _ (Entries.mem_of_lookup hfound)⟩
  · exact step?_of_mem_itemsFrom hkeys hpart
  · exact step?_of_mem_itemsFrom hkeys hpart
  · rename_i members
    obtain ⟨member, hmember, rfl⟩ := List.mem_map.mp hpart
    obtain ⟨hnodup, hmembers⟩ := Json.hasDistinctKeys_object_iff.mp hkeys
    exact ⟨Entries.lookup_of_mem hnodup hmember, hmembers member hmember⟩
  · exact step?_of_mem_itemsFrom hkeys hpart
  · contradiction

/-- A part that is reached is the one to which its pointer leads, if no key is repeated. -/
theorem Reaches.resolve? {expected : Expectation} {found : Json}
    (hreached : Reaches expectation value pointer expected found)
    (hkeys : value.hasDistinctKeys = true) : Pointer.resolve? pointer value = some found := by
  induction hreached with
  | here => rfl
  | part hpart hrest ih =>
    obtain ⟨hstep, hkeys⟩ := step?_of_mem_parts hkeys hpart
    rw [Pointer.resolve?, hstep]
    exact ih hkeys

/-- From a schema the first step is a keyword, so it is not empty. -/
theorem Reaches.head_ne_empty {expected : Expectation} {found : Json} {token : String}
    {rest : Pointer} (hreached : Reaches .schema value (token :: rest) expected found) :
    token ≠ "" := by
  cases hreached with
  | part hpart hrest =>
    cases value with
    | object members => exact (lookup_of_mem_schemaParts hpart).1
    | _ => contradiction

end Dialect

namespace SchemaError

/-- The pointer that a written place stands for; a slash is the whole document. -/
def pointerOf? (place : String) : Option Pointer :=
  if place = "/" then some [] else Pointer.ofText? place

/-- The place of an error stands for its pointer, unless this leads to an empty key first. -/
theorem pointerOf?_place {error : SchemaError} (hfirst : error.pointer.head? ≠ some "") :
    pointerOf? error.place = some error.pointer := by
  rw [place, pointerOf?]
  cases hpointer : error.pointer with
  | nil => rfl
  | cons token rest =>
    have hread := Pointer.ofText?_toText (token :: rest)
    -- only the pointer to an empty key is written as a slash
    have hslash : Pointer.toText (token :: rest) ≠ "/" := by
      intro hplace
      have hempty : Pointer.ofText? "/" = some [""] := by decide +kernel
      rw [hplace, hempty] at hread
      obtain ⟨rfl, _⟩ := List.cons.inj (Option.some.inj hread)
      rw [hpointer] at hfirst
      exact hfirst rfl
    simp only [List.isEmpty_cons, Bool.false_eq_true, if_false, if_neg hslash, hread]

end SchemaError

namespace Dialect

variable {document : Json}

/-- Whether a place stands for a part of a document that is reached and not what it has to be. -/
def MalformedAt [PatternEngine] (document : Json) (place : String) : Prop :=
  ∃ pointer expected found, SchemaError.pointerOf? place = some pointer ∧
    Pointer.resolve? pointer document = some found ∧
    Reaches .schema document pointer expected found ∧ expected.isMet found = false

/-- The place of an error whose pointer is reached stands for this pointer. -/
theorem pointerOf?_place_of_reaches {error : SchemaError} {expected : Expectation} {found : Json}
    (hreached : Reaches .schema document error.pointer expected found) :
    SchemaError.pointerOf? error.place = some error.pointer := by
  refine SchemaError.pointerOf?_place ?_
  cases hpointer : error.pointer with
  | nil => exact nofun
  | cons token rest =>
    rw [hpointer] at hreached
    exact fun hempty => hreached.head_ne_empty (Option.some.inj hempty)

/-- Where an error points at a faulty part, its place stands for this part. -/
theorem malformedAt_place [PatternEngine] {error : SchemaError}
    (hkeys : document.hasDistinctKeys = true)
    (hfaulty : FaultyAt .schema document error.pointer) : MalformedAt document error.place := by
  obtain ⟨expected, found, hreached, hunmet⟩ := hfaulty
  exact ⟨error.pointer, expected, found, pointerOf?_place_of_reaches hreached,
    hreached.resolve? hkeys, hreached, hunmet⟩

end Dialect

namespace Schema

variable [PatternEngine]

open Dialect

variable {α β : Type} {front : Pointer} {read : Except SchemaError α} {expectation : Expectation}
  {found : Json} {looked more : List Part} {members : List (String × Json)}

/--
A reader of the value under a pointer fails only if it is faulty, and then points at a fault.
-/
structure Reads (front : Pointer) (read : Except SchemaError α) (expectation : Expectation)
    (found : Json) : Prop where
  sound : ∀ result, read = .ok result → ∀ pointer, ¬FaultyAt expectation found pointer
  points : ∀ error, read = .error error →
    ∃ pointer, error.pointer = front ++ pointer ∧ FaultyAt expectation found pointer

/-- The same for a reader of some parts of the value under a pointer. -/
structure ReadsParts (front : Pointer) (read : Except SchemaError α) (looked : List Part) :
    Prop where
  sound : ∀ result, read = .ok result →
    ∀ part ∈ looked, ∀ pointer, ¬FaultyAt part.expectation part.found pointer
  points : ∀ error, read = .error error → ∃ part ∈ looked, ∃ pointer,
    error.pointer = front ++ part.token :: pointer ∧
      FaultyAt part.expectation part.found pointer

namespace Reads

/-- A value that is what it has to be is read by its parts. -/
theorem of_parts (hmet : expectation.isMet found = true)
    (hread : ReadsParts front read (parts expectation found)) :
    Reads front read expectation found where
  sound result hok pointer hfaulty := by
    rcases faultyAt_iff.mp hfaulty with ⟨_, hunmet⟩ | ⟨part, hpart, rest, _, hfaulty⟩
    · rw [hmet] at hunmet
      contradiction
    · exact hread.sound result hok part hpart rest hfaulty
  points error herror := by
    obtain ⟨part, hpart, pointer, hpointer, hfaulty⟩ := hread.points error herror
    exact ⟨_, hpointer, faultyAt_iff.mpr (.inr ⟨part, hpart, pointer, rfl, hfaulty⟩)⟩

/-- A value without parts that is what it has to be. -/
theorem of_leaf (hmet : expectation.isMet found = true) (hleaf : parts expectation found = [])
    (result : α) : Reads front (.ok result) expectation found :=
  of_parts hmet (hleaf ▸ ⟨fun _ _ => nofun, nofun⟩)

/-- A value that is not what it has to be. -/
theorem of_fault (hunmet : expectation.isMet found = false) (fault : SchemaFault) :
    Reads front (faultAt front fault : Except SchemaError α) expectation found where
  sound _ hok := nomatch hok
  points error herror := by
    obtain rfl := Except.error.inj herror
    exact ⟨[], (List.append_nil _).symm, faultyAt_iff.mpr (.inl ⟨rfl, hunmet⟩)⟩

/-- Seen from one level further up. -/
theorem under (hread : Reads front read expectation found) (token : String) :
    Reads (token :: front) (read.mapError (.under token)) expectation found where
  sound result hok := hread.sound result (mapError_eq_ok_iff.mp hok)
  points error herror := by
    cases read with
    | ok result => contradiction
    | error cause =>
      obtain rfl := Except.error.inj herror
      obtain ⟨pointer, hpointer, hfaulty⟩ := hread.points cause rfl
      exact ⟨pointer, congrArg (token :: ·) hpointer, hfaulty⟩

/-- What is made of a result makes no difference. -/
theorem map (hread : Reads front read expectation found) (f : α → β) :
    Reads front (read.map f) expectation found where
  sound result hok := by
    obtain ⟨found, hfound, _⟩ := map_eq_ok_iff.mp hok
    exact hread.sound found hfound
  points error herror := by
    cases read with
    | ok result => contradiction
    | error cause =>
      obtain rfl := Except.error.inj herror
      exact hread.points cause rfl

end Reads

namespace ReadsParts

/-- No parts. -/
theorem nil (result : α) : ReadsParts front (.ok result) [] := ⟨fun _ _ => nofun, nofun⟩

/-- A single part. -/
theorem single {part : Part}
    (hread : Reads (front ++ [part.token]) read part.expectation part.found) :
    ReadsParts front read [part] where
  sound result hok := by
    simpa using hread.sound result hok
  points error herror := by
    obtain ⟨pointer, hpointer, hfaulty⟩ := hread.points error herror
    exact ⟨part, List.mem_singleton_self part, pointer, by simpa using hpointer, hfaulty⟩

/-- Parts that are read one after the other. -/
theorem bind {next : α → Except SchemaError β} (hread : ReadsParts front read looked)
    (hnext : ∀ a, ReadsParts front (next a) more) :
    ReadsParts front (read >>= next) (looked ++ more) where
  sound result hok part hpart := by
    obtain ⟨a, ha, hresult⟩ := bind_eq_ok_iff.mp hok
    rcases List.mem_append.mp hpart with hpart | hpart
    · exact hread.sound a ha part hpart
    · exact (hnext a).sound result hresult part hpart
  points error herror := by
    cases read with
    | error cause =>
      obtain rfl := Except.error.inj herror
      obtain ⟨part, hpart, hfaulty⟩ := hread.points cause rfl
      exact ⟨part, List.mem_append_left _ hpart, hfaulty⟩
    | ok a =>
      obtain ⟨part, hpart, hfaulty⟩ := (hnext a).points error herror
      exact ⟨part, List.mem_append_right _ hpart, hfaulty⟩

/-- What is made of a result makes no difference. -/
theorem map (hread : ReadsParts front read looked) (f : α → β) :
    ReadsParts front (read.map f) looked where
  sound result hok := by
    obtain ⟨found, hfound, _⟩ := map_eq_ok_iff.mp hok
    exact hread.sound found hfound
  points error herror := by
    cases read with
    | ok result => contradiction
    | error cause =>
      obtain rfl := Except.error.inj herror
      exact hread.points cause rfl

/-- A last step that looks at nothing more. -/
theorem last {next : α → Except SchemaError β} (hread : ReadsParts front read looked)
    (hnext : ∀ a, ReadsParts front (next a) []) : ReadsParts front (read >>= next) looked :=
  List.append_nil looked ▸ hread.bind hnext

/-- A part that is not what it has to be, before others that are not looked at any more. -/
theorem of_fault {token : String} (hunmet : expectation.isMet found = false)
    (fault : SchemaFault) :
    ReadsParts front (faultAt (front ++ [token]) fault : Except SchemaError α)
      (⟨token, expectation, found⟩ :: more) where
  sound _ hok := nomatch hok
  points error herror := by
    obtain rfl := Except.error.inj herror
    exact ⟨_, List.mem_cons_self, [], rfl, faultyAt_iff.mpr (.inl ⟨rfl, hunmet⟩)⟩

/-- A part that is known not to be faulty. -/
theorem cons {token : String} (hpart : ∀ pointer, ¬FaultyAt expectation found pointer)
    (hread : ReadsParts front read looked) :
    ReadsParts front read (⟨token, expectation, found⟩ :: looked) where
  sound result hok := List.forall_mem_cons.mpr ⟨hpart, hread.sound result hok⟩
  points error herror := by
    obtain ⟨part, hpart, hfaulty⟩ := hread.points error herror
    exact ⟨part, List.mem_cons_of_mem _ hpart, hfaulty⟩

/-- The part under a keyword. -/
theorem of_lookup {keyword : String}
    (hnone : members.lookup keyword = none → ∃ result, read = .ok result)
    (hsome : ∀ value, members.lookup keyword = some value →
      Reads (front ++ [keyword]) read expectation value) :
    ReadsParts front read (partUnder expectation keyword members) := by
  unfold partUnder
  split
  · rename_i habsent
    obtain ⟨result, rfl⟩ := hnone habsent
    exact nil result
  · rename_i value hfound
    exact single (hsome value hfound)

end ReadsParts

/-- What is read under a keyword, if that is present and its value is not `null`. -/
def readPresent (keyword : String) (fault : SchemaFault) (read? : Json → Option α)
    (members : List (String × Json)) : Except SchemaError (Option α) :=
  match members.lookup keyword with
  | none | some .null => .ok none
  | some value =>
    match read? value with
    | some result => .ok (some result)
    | none => faultAt [keyword] fault

/-- Such a value is no fault if it can be read. -/
theorem readsParts_readPresent {read? : Json → Option α} (keyword : String) (fault : SchemaFault)
    (hmet : ∀ value, expectation.isMet value = true ↔ value = .null ∨ (read? value).isSome = true)
    (hleaf : ∀ value, parts expectation value = []) :
    ReadsParts [] (readPresent keyword fault read? members)
      (partUnder expectation keyword members) := by
  refine .of_lookup (fun habsent => ⟨none, by rw [readPresent, habsent]⟩) fun value hfound => ?_
  unfold readPresent
  split
  · exact .of_leaf (by simp_all) (hleaf value) none
  · exact .of_leaf (by simp_all) (hleaf value) none
  · rename_i other hnull heq
    obtain rfl := Option.some.inj (hfound.symm.trans heq)
    cases hread : read? value with
    | some result => exact .of_leaf ((hmet value).mpr (.inr (by simp [hread]))) (hleaf value) _
    | none =>
      refine .of_fault (Bool.eq_false_iff.mpr fun hvalue => ?_) _
      rcases (hmet value).mp hvalue with rfl | hsome
      · exact hnull rfl
      · simp [hread] at hsome

/-- The bound under a keyword. -/
theorem readsParts_readBound (keyword : String) :
    ReadsParts [] (readBound keyword members) (partUnder .bound keyword members) := by
  have hpresent : readBound keyword members =
      readPresent keyword (.notANumber keyword) Json.number? members := by
    unfold readBound readPresent
    cases members.lookup keyword with
    | none => rfl
    | some value => cases value <;> rfl
  rw [hpresent]
  refine readsParts_readPresent keyword _ ?_ ?_
  · intro value
    cases value <;> simp [Expectation.isMet, Json.number?]
  · intro value
    cases value <;> rfl

/-- The count under a keyword. -/
theorem readsParts_readCount (keyword : String) :
    ReadsParts [] (readCount keyword members) (partUnder .count keyword members) := by
  have hpresent : readCount keyword members =
      readPresent keyword (.notACount keyword) Json.count? members := by
    unfold readCount readPresent
    cases members.lookup keyword with
    | none => rfl
    | some value =>
      cases value with
      | int number => cases hcount : (Json.int number).count? <;> simp [hcount]
      | _ => rfl
  rw [hpresent]
  refine readsParts_readPresent keyword _ ?_ ?_
  · intro value
    cases value <;> simp [Expectation.isMet, Json.count?]
  · intro value
    cases value <;> rfl

/-- The bounds of numbers. -/
theorem readsParts_readNumeric (integer : Bool) :
    ReadsParts [] (readNumeric integer members)
      (partUnder .bound "minimum" members ++ partUnder .bound "maximum" members) := by
  refine .bind (readsParts_readBound _) fun min => ?_
  refine .last (readsParts_readBound _) fun max => ?_
  split
  · exact .nil _
  · exact .nil _

/-- The pattern of strings. -/
theorem readsParts_readString :
    ReadsParts [] (readString members) (partUnder .pattern "pattern" members) := by
  refine .of_lookup (fun habsent => ⟨_, by simp [readString, habsent]; rfl⟩) fun value hfound => ?_
  have hleaf : parts .pattern value = [] := by cases value <;> rfl
  unfold readString
  rw [hfound]
  split
  · contradiction
  · rename_i source heq
    obtain rfl := Option.some.inj heq
    cases hcompile : Pattern.compile? source with
    | some form => exact .of_leaf (by simp [Expectation.isMet, hcompile]) hleaf _
    | none => exact .of_fault (by simp [Expectation.isMet, hcompile]) _
  · rename_i other heq
    obtain rfl := Option.some.inj heq
    refine .of_fault ?_ _
    cases value <;> simp_all [Expectation.isMet]

/-- What is said about undeclared keys. -/
theorem readsParts_readAdditional :
    ReadsParts [] (readAdditional members)
      (partUnder .additional "additionalProperties" members) := by
  refine .of_lookup (fun habsent => ⟨_, by simp [readAdditional, habsent]; rfl⟩)
    fun value hfound => ?_
  unfold readAdditional
  rw [hfound]
  cases value with
  | bool value => cases value <;> exact .of_leaf rfl rfl _
  | object inner => exact .of_leaf rfl rfl _
  | _ => exact .of_fault rfl _

/-- A value without parts that is what it has to be has no faulty part. -/
theorem not_faultyAt_of_leaf {value : Json} (hmet : expectation.isMet value = true)
    (hleaf : parts expectation value = []) (pointer : Pointer) :
    ¬FaultyAt expectation value pointer :=
  (@Reads.of_leaf _ _ [] _ _ hmet hleaf ()).sound () rfl pointer

/-- The required keys of a list. -/
theorem readsParts_readRequiredKeys (index : Nat) (keys : List Json) :
    ReadsParts ["required"] (readRequiredKeys index keys) (itemsFrom .requiredKey index keys) := by
  induction keys generalizing index with
  | nil => exact .nil _
  | cons key rest ih =>
    cases key with
    | string key =>
      exact .cons (not_faultyAt_of_leaf rfl rfl) ((ih (index + 1)).last fun _ => .nil _)
    | _ => exact .of_fault rfl _

/-- The required keys. -/
theorem readsParts_readRequired :
    ReadsParts [] (readRequired members) (partUnder .required "required" members) := by
  refine .of_lookup (fun habsent => ⟨_, by simp [readRequired, habsent]; rfl⟩)
    fun value hfound => ?_
  unfold readRequired
  rw [hfound]
  cases value with
  | array keys => exact .map (.of_parts rfl (readsParts_readRequiredKeys 0 keys)) _
  | _ => exact .of_fault rfl _

/-- The names of kinds. -/
theorem readsParts_readKinds (index : Nat) (names : List Json) :
    ReadsParts ["type"] (readKinds index names) (itemsFrom .typeName index names) := by
  induction names generalizing index with
  | nil => exact .nil _
  | cons name rest ih =>
    cases name with
    | string name =>
      rw [readKinds]
      cases hkind : Kind.ofName? name with
      | some kind =>
        have hmet : Expectation.typeName.isMet (.string name) = true := by
          simp [Expectation.isMet, hkind]
        exact .cons (not_faultyAt_of_leaf hmet rfl) ((ih (index + 1)).last fun _ => .nil _)
      | none => exact .of_fault (by simp [Expectation.isMet, hkind]) _
    | _ => exact .of_fault rfl _

/-- A schema that is read at a step of its own. -/
theorem ReadsParts.child {token : String} {value : Json} (hread : Reads [] read .schema value) :
    ReadsParts [] (read.mapError (.under token)) [⟨token, .schema, value⟩] :=
  .single (hread.under token)

section Steps

variable {document : Json}
  (hparts : ∀ part : Json, sizeOf part < sizeOf document → Reads [] (ofJson part) .schema part)

include hparts in
/-- The branches of a list. -/
theorem readsParts_readBranchList (index : Nat) (branches : List Json)
    (hbranches : ∀ branch ∈ branches, sizeOf branch < sizeOf document) :
    ReadsParts [] (readBranchList index branches) (itemsFrom .schema index branches) := by
  induction branches generalizing index with
  | nil => exact .nil _
  | cons branch rest ih =>
    obtain ⟨hbranch, hrest⟩ := List.forall_mem_cons.mp hbranches
    exact (ReadsParts.child (hparts branch hbranch)).bind fun _ =>
      (ih (index + 1) hrest).last fun _ => .nil _

include hparts in
/-- The branches of a union. -/
theorem reads_readBranches {union : Json} (hunion : sizeOf union < sizeOf document) :
    Reads [] (readBranches union) .branches union := by
  cases union with
  | array branches =>
    exact .of_parts rfl (readsParts_readBranchList hparts 0 branches fun branch hbranch =>
      Nat.lt_trans (Json.sizeOf_lt_array hbranch) hunion)
  | _ => exact .of_fault rfl _

include hparts in
/-- The properties that members declare. -/
theorem readsParts_readDeclaredMembers (members : List (String × Json))
    (hmembers : ∀ member ∈ members, sizeOf member.2 < sizeOf document) :
    ReadsParts [] (readDeclaredMembers members)
      (members.map fun member => ⟨member.1, .schema, member.2⟩) := by
  induction members with
  | nil => exact .nil _
  | cons member rest ih =>
    obtain ⟨hmember, hrest⟩ := List.forall_mem_cons.mp hmembers
    exact (ReadsParts.child (hparts member.2 hmember)).bind fun _ =>
      (ih hrest).last fun _ => .nil _

include hparts in
/-- The properties that an object declares. -/
theorem reads_readDeclared {properties : Json} (hproperties : sizeOf properties < sizeOf document) :
    Reads [] (readDeclared properties) .properties properties := by
  cases properties with
  | object members =>
    exact .of_parts rfl (readsParts_readDeclaredMembers hparts members fun member hmember =>
      Nat.lt_trans (Json.sizeOf_lt_object_of_mem hmember) hproperties)
  | _ => exact .of_fault rfl _

end Steps

section Objects

variable (hparts : ∀ part : Json, sizeOf part < sizeOf (Json.object members) →
  Reads [] (ofJson part) .schema part)

include hparts in
/-- The items and the counts of an array. -/
theorem readsParts_readArray :
    ReadsParts [] (readArray members) (typedParts members .array) := by
  have hitems : ReadsParts [] (readItems members) (partUnder .schema "items" members) := by
    rw [readItems_eq_lookup]
    refine .of_lookup (fun habsent => ⟨any, by rw [habsent]⟩) fun value hfound => ?_
    rw [hfound]
    exact (hparts value (Json.sizeOf_lt_object hfound)).under "items"
  exact hitems.bind fun _ => (readsParts_readCount "minItems").bind fun _ =>
    (readsParts_readCount "maxItems").last fun _ => .nil _

include hparts in
/-- The properties, the required keys and what is said about undeclared ones. -/
theorem readsParts_readObject :
    ReadsParts [] (readObject members) (typedParts members .object) := by
  have hproperties :
      ReadsParts [] (readProperties members) (partUnder .properties "properties" members) := by
    rw [readProperties_eq_lookup]
    refine .of_lookup (fun habsent => ⟨[], by rw [habsent]⟩) fun value hfound => ?_
    rw [hfound]
    exact (reads_readDeclared hparts (Json.sizeOf_lt_object hfound)).under "properties"
  exact hproperties.bind fun _ => readsParts_readRequired.bind fun _ =>
    readsParts_readAdditional.last fun _ => .nil _

include hparts in
/-- The keywords that belong to a kind. -/
theorem readsParts_readTyped (kind : Kind) :
    ReadsParts [] (readTyped members kind) (typedParts members kind) := by
  cases kind with
  | number => exact readsParts_readNumeric false
  | integer => exact readsParts_readNumeric true
  | string => exact readsParts_readString
  | array => exact readsParts_readArray hparts
  | object => exact readsParts_readObject hparts
  | null => exact .nil _
  | boolean => exact .nil _

include hparts in
/-- Where `type` decides. -/
theorem readsParts_of_type {type : Json} (hany : members.lookup "anyOf" = none)
    (hone : members.lookup "oneOf" = none) (henum : members.lookup "enum" = none)
    (htype : members.lookup "type" = some type) :
    ReadsParts [] (ofJson (.object members)) (typeParts members type) := by
  cases type with
  | string name =>
    cases hkind : Kind.ofName? name with
    | some kind =>
      have hmet : Expectation.type.isMet (.string name) = true := by
        simp [Expectation.isMet, hkind]
      rw [ofJson_of_type hany hone henum htype hkind]
      have htyped := readsParts_readTyped hparts kind
      simp only [typeParts, Json.string?, Option.bind_some, hkind]
      exact .cons (not_faultyAt_of_leaf hmet rfl) htyped
    | none =>
      simp only [ofJson, readBranchesAt_eq_lookup, hany, hone, henum, htype, Option.map_none, hkind]
      exact .of_fault (by simp [Expectation.isMet, hkind]) _
  | array names =>
    simp only [ofJson, readBranchesAt_eq_lookup, hany, hone, henum, htype, Option.map_none]
    have hnames : Reads ["type"] (readKinds 0 names) .type (.array names) :=
      .of_parts rfl (readsParts_readKinds 0 names)
    exact (@ReadsParts.single _ _ [] _ ⟨"type", .type, .array names⟩ hnames).map _
  | _ =>
    simp only [ofJson, readBranchesAt_eq_lookup, hany, hone, henum, htype, Option.map_none]
    exact .of_fault rfl _

include hparts in
/-- The keyword that decides about an object. -/
theorem readsParts_ofJson_object :
    ReadsParts [] (ofJson (.object members)) (schemaParts members) := by
  unfold schemaParts
  split
  · rename_i union _ _ _ hany
    rw [ofJson_of_anyOf hany]
    exact .map (.single ((reads_readBranches hparts (Json.sizeOf_lt_object hany)).under _)) _
  · rename_i union _ _ hany hone
    rw [ofJson_of_oneOf hany hone]
    exact .map (.single ((reads_readBranches hparts (Json.sizeOf_lt_object hone)).under _)) _
  · rename_i literals hany hone henum
    cases literals with
    | array values =>
      rw [ofJson_of_enum hany hone henum]
      exact .cons (not_faultyAt_of_leaf rfl rfl) (.nil _)
    | _ =>
      simp only [ofJson, readBranchesAt_eq_lookup, hany, hone, henum, Option.map_none]
      exact .of_fault rfl _
  · rename_i type hany hone henum htype
    exact readsParts_of_type hparts hany hone henum htype
  · rename_i hany hone henum htype
    rw [ofJson_of_none hany hone henum htype]
    exact .nil _

end Objects

/-- A document is read exactly as far as its parts are what they have to be. -/
theorem reads_ofJson (document : Json) : Reads [] (ofJson document) .schema document := by
  -- branches and properties lie two levels down, so the induction is on the size
  induction document using Json.sizeInduction with
  | step document hparts =>
    cases document with
    | object members => exact .of_parts rfl (readsParts_ofJson_object hparts)
    | bool value =>
      cases value with
      | true => exact .of_leaf rfl rfl _
      | false => exact .of_fault rfl _
    | _ => exact .of_fault rfl _

/-- Reading fails exactly if a part that is reached is not what it has to be. -/
theorem exists_error_ofJson_iff {document : Json} :
    (∃ error, ofJson document = .error error) ↔ ∃ pointer, FaultyAt .schema document pointer := by
  constructor
  · rintro ⟨error, herror⟩
    obtain ⟨pointer, _, hfaulty⟩ := (reads_ofJson document).points error herror
    exact ⟨pointer, hfaulty⟩
  · rintro ⟨pointer, hfaulty⟩
    cases hread : ofJson document with
    | error error => exact ⟨error, rfl⟩
    | ok schema => exact absurd hfaulty ((reads_ofJson document).sound schema hread pointer)

/-- The place of an error stands for a part that is not what it has to be. -/
theorem malformedAt_of_ofJson {document : Json} {error : SchemaError}
    (hkeys : document.hasDistinctKeys = true) (herror : ofJson document = .error error) :
    MalformedAt document error.place := by
  obtain ⟨pointer, hpointer, hfaulty⟩ := (reads_ofJson document).points error herror
  rw [List.nil_append] at hpointer
  exact malformedAt_place hkeys (hpointer ▸ hfaulty)

end Schema

end ControlProps
