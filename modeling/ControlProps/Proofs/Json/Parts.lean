import ControlProps.Json.Pointer
import ControlProps.Proofs.Binary64.Text
import ControlProps.Proofs.Entries

/-!
# Parts of JSON values

The parts of a value are the values within it, down to any depth. A pointer leads from a value to
one of them. Its written form is read as that pointer again, whatever stands in its keys.
-/

namespace ControlProps

namespace Json

/-- The size of an item is below that of the array. -/
theorem sizeOf_lt_array {items : List Json} {item : Json} (hitem : item ∈ items) :
    sizeOf item < sizeOf (array items) := by
  have hlt := List.sizeOf_lt_of_mem hitem
  simp only [array.sizeOf_spec]
  omega

/-- The size of the value of a member is below that of the object. -/
theorem sizeOf_lt_object_of_mem {members : List (String × Json)} {member : String × Json}
    (hmember : member ∈ members) : sizeOf member.2 < sizeOf (object members) := by
  have hlt := List.sizeOf_lt_of_mem hmember
  obtain ⟨key, value⟩ := member
  simp only [object.sizeOf_spec, Prod.mk.sizeOf_spec] at hlt ⊢
  omega

/-- The size of what a look-up finds is below that of the object. -/
theorem sizeOf_lt_object {members : List (String × Json)} {key : String} {value : Json}
    (hfound : members.lookup key = some value) : sizeOf value < sizeOf (object members) :=
  sizeOf_lt_object_of_mem (Entries.mem_of_lookup hfound)

/-- Induction in which a claim is assumed for all smaller documents, however deep they lie. -/
theorem sizeInduction {motive : Json → Prop}
    (step : ∀ document, (∀ part, sizeOf part < sizeOf document → motive part) → motive document)
    (document : Json) : motive document :=
  step document fun part _ => sizeInduction step part
termination_by sizeOf document

/-- The items of an array, or the values of the members of an object. -/
def children : Json → List Json
  | array items => items
  | object members => members.map Prod.snd
  | _ => []

/-- A child is smaller than the value that it is a child of. -/
theorem sizeOf_lt_of_mem_children {json child : Json} (hchild : child ∈ json.children) :
    sizeOf child < sizeOf json := by
  cases json with
  | array items => exact sizeOf_lt_array hchild
  | object members =>
    obtain ⟨member, hmember, rfl⟩ := List.mem_map.mp hchild
    exact sizeOf_lt_object_of_mem hmember
  | _ => exact absurd hchild List.not_mem_nil

/-- Structural induction, in which a claim is assumed for each child. -/
theorem childrenInduction {motive : Json → Prop}
    (step : ∀ json, (∀ child ∈ json.children, motive child) → motive json) (json : Json) :
    motive json := by
  induction json using sizeInduction with
  | step json ih => exact step json fun child hchild => ih child (sizeOf_lt_of_mem_children hchild)

/-- The second value is the first one or lies within it. -/
inductive HasPart : Json → Json → Prop
  | self {json : Json} : HasPart json json
  | child {json child part : Json} (hchild : child ∈ json.children) (hpart : HasPart child part) :
      HasPart json part

/-- All parts of a value, itself among them, have a property. -/
def Everywhere (holds : Json → Prop) (json : Json) : Prop := ∀ part, json.HasPart part → holds part

section Everywhere

variable {holds : Json → Prop}

/-- A property of all parts is one of the value itself and of all parts of its children. -/
theorem everywhere_iff {json : Json} :
    json.Everywhere holds ↔ holds json ∧ ∀ child ∈ json.children, child.Everywhere holds := by
  constructor
  · exact fun h => ⟨h json .self, fun _ hchild part hpart => h part (.child hchild hpart)⟩
  · rintro ⟨hself, hchildren⟩ part hpart
    cases hpart with
    | self => exact hself
    | child hchild hpart => exact hchildren _ hchild part hpart

/-- A property of all parts of an array is one of itself and of all parts of its items. -/
@[simp] theorem everywhere_array {items : List Json} :
    (array items).Everywhere holds ↔
      holds (array items) ∧ ∀ item ∈ items, item.Everywhere holds :=
  everywhere_iff

/-- A property of all parts of an object is one of itself and of all parts of the values of its
members. -/
@[simp] theorem everywhere_object {members : List (String × Json)} :
    (object members).Everywhere holds ↔
      holds (object members) ∧ ∀ member ∈ members, member.2.Everywhere holds := by
  rw [everywhere_iff, children, List.forall_mem_map]

/-- A value without children is its only part. -/
theorem everywhere_leaf {json : Json} (hnone : json.children = []) :
    json.Everywhere holds ↔ holds json := by
  rw [everywhere_iff, hnone]
  exact and_iff_left nofun

@[simp] theorem everywhere_null : null.Everywhere holds ↔ holds null := everywhere_leaf rfl

@[simp] theorem everywhere_bool {value : Bool} :
    (bool value).Everywhere holds ↔ holds (bool value) :=
  everywhere_leaf rfl

@[simp] theorem everywhere_int {value : Int} : (int value).Everywhere holds ↔ holds (int value) :=
  everywhere_leaf rfl

@[simp] theorem everywhere_float {value : Binary64} :
    (float value).Everywhere holds ↔ holds (float value) :=
  everywhere_leaf rfl

@[simp] theorem everywhere_string {value : String} :
    (string value).Everywhere holds ↔ holds (string value) :=
  everywhere_leaf rfl

end Everywhere

mutual

/-- Whether no key is repeated in an object. -/
def hasDistinctKeys : Json → Bool
  | array items => haveDistinctKeys items
  | object members => decide (Entries.keys members).Nodup && membersHaveDistinctKeys members
  | _ => true

/-- Whether no key is repeated in an object of these items. -/
def haveDistinctKeys : List Json → Bool
  | [] => true
  | item :: rest => item.hasDistinctKeys && haveDistinctKeys rest

/-- Whether no key is repeated in an object of the values of these members. -/
def membersHaveDistinctKeys : List (String × Json) → Bool
  | [] => true
  | (_, value) :: rest => value.hasDistinctKeys && membersHaveDistinctKeys rest

end

/-- No key is repeated in any item. -/
theorem hasDistinctKeys_array_iff {items : List Json} :
    (array items).hasDistinctKeys = true ↔ ∀ item ∈ items, item.hasDistinctKeys = true := by
  rw [hasDistinctKeys]
  induction items with
  | nil => simp [haveDistinctKeys]
  | cons first rest ih => rw [haveDistinctKeys, Bool.and_eq_true, ih, List.forall_mem_cons]

/-- No key is repeated among the members, nor in the value of any of them. -/
theorem hasDistinctKeys_object_iff {members : List (String × Json)} :
    (object members).hasDistinctKeys = true ↔
      (Entries.keys members).Nodup ∧ ∀ member ∈ members, member.2.hasDistinctKeys = true := by
  have hvalues : membersHaveDistinctKeys members = true ↔
      ∀ member ∈ members, member.2.hasDistinctKeys = true := by
    induction members with
    | nil => simp [membersHaveDistinctKeys]
    | cons member rest ih =>
      rw [membersHaveDistinctKeys, Bool.and_eq_true, ih, List.forall_mem_cons]
  rw [hasDistinctKeys, Bool.and_eq_true, decide_eq_true_eq, hvalues]

end Json

section Parts

variable {separator : Char} {part read rest : List Char}

/-- There always is a part, though it may be empty. -/
theorem partsFrom_ne_nil : partsFrom separator read rest ≠ [] := by
  fun_induction partsFrom separator read rest with
  | case1 => exact List.cons_ne_nil _ _
  | case2 => exact List.cons_ne_nil _ _
  | case3 read c rest hc ih => exact ih

/-- What has no separator belongs to the first part. -/
theorem partsFrom_append (hpart : separator ∉ part) :
    partsFrom separator read (part ++ rest) = partsFrom separator (part.reverse ++ read) rest := by
  induction part generalizing read with
  | nil => rfl
  | cons c part ih =>
    obtain ⟨hc, hpart⟩ := List.ne_and_not_mem_of_not_mem_cons hpart
    rw [List.cons_append, partsFrom, if_neg (Ne.symm hc), ih hpart, List.reverse_cons,
      List.append_assoc]
    rfl

/-- Parts without separators are found between the separators before each of them but the first. -/
theorem partsBetween_flatMap {parts : List (List Char)} (hpart : separator ∉ part)
    (hparts : ∀ other ∈ parts, separator ∉ other) :
    partsBetween separator (part ++ parts.flatMap (separator :: ·)) = part :: parts := by
  induction parts generalizing part with
  | nil => rw [List.flatMap_nil, partsBetween, partsFrom_append hpart, partsFrom]; simp
  | cons other parts ih =>
    obtain ⟨hother, hparts⟩ := List.forall_mem_cons.mp hparts
    rw [List.flatMap_cons, partsBetween, partsFrom_append hpart, List.cons_append, partsFrom,
      if_pos rfl]
    have hrest := ih hother hparts
    rw [partsBetween] at hrest
    rw [hrest]
    simp

end Parts

/-- A natural number other than zero is not written with a zero first. -/
theorem head?_toDigits_ne {n : Nat} (hn : n ≠ 0) : (Nat.toDigits 10 n).head? ≠ some '0' := by
  induction n using Nat.strongRecOn with
  | ind n ih =>
    by_cases hless : n < 10
    · rw [Nat.toDigits_of_lt_base hless]
      simpa using hn
    · have hleading := ih (n / 10) (by omega) (by omega)
      obtain ⟨c, rest, hdigits⟩ := List.exists_cons_of_ne_nil (@Nat.toDigits_ne_nil (n / 10) 10)
      rw [Nat.toDigits_of_base_le (by decide) (by omega), hdigits]
      rwa [hdigits] at hleading

namespace Pointer

/-- No slash is in a written token. -/
theorem slash_notMem_escape (token : List Char) : '/' ∉ escape token := by
  fun_induction escape token with
  | case1 => simp
  | case2 rest ih => simp [ih]
  | case3 rest ih => simp [ih]
  | case4 c rest htilde hslash ih =>
    exact List.not_mem_cons_of_ne_of_not_mem (Ne.symm hslash) ih

/-- A written token stands for its characters. -/
theorem unescape_escape (token : List Char) : unescape (escape token) = token := by
  fun_induction escape token with
  | case1 => rfl
  | case2 rest ih => rw [unescape, ih]
  | case3 rest ih => rw [unescape, ih]
  | case4 c rest htilde hslash ih =>
    rw [unescape, ih]
    · exact fun _ hc => absurd hc htilde
    · exact fun _ hc => absurd hc htilde

/-- The characters of a written pointer: a slash before each token. -/
theorem toList_toText (pointer : Pointer) :
    pointer.toText.toList = pointer.flatMap fun token => '/' :: escape token.toList := by
  have hjoin (written : String) : (pointer.foldl (fun text token =>
      text ++ ("/" ++ String.ofList (escape token.toList))) written).toList =
        written.toList ++ pointer.flatMap fun token => '/' :: escape token.toList := by
    induction pointer generalizing written with
    | nil => simp
    | cons token rest ih =>
      rw [List.foldl_cons, ih]
      simp
  rw [toText, String.join, List.foldl_map]
  exact hjoin ""

/-- A written pointer is read as that pointer. -/
theorem ofText?_toText (pointer : Pointer) : ofText? pointer.toText = some pointer := by
  have hread (tokens : List String) : tokens.map (fun token =>
      String.ofList (unescape (escape token.toList))) = tokens := by
    simp [unescape_escape]
  rw [ofText?, toList_toText]
  cases pointer with
  | nil => rfl
  | cons token rest =>
    have hparts : ∀ part ∈ rest.map fun token => escape token.toList, '/' ∉ part := by
      simp [slash_notMem_escape]
    have hsplit := partsBetween_flatMap (slash_notMem_escape token.toList) hparts
    rw [List.flatMap_map] at hsplit
    simp only [List.flatMap_cons, List.cons_append]
    rw [hsplit, List.map_cons, List.map_map, unescape_escape, String.ofList_toList]
    exact congrArg (fun tokens => some (token :: tokens)) (hread rest)

/-- A written index is read as that index. -/
theorem index?_toString (index : Nat) : index? (toString index) = some index := by
  have hdigits := isDigits_toDigits index
  have hvalue := digitsValue_toDigits index
  have htext : (toString index).toList = Nat.toDigits 10 index := Nat.toList_repr
  rw [index?, htext]
  by_cases hzero : index = 0
  · subst hzero
    rfl
  · have hleading := head?_toDigits_ne hzero
    generalize Nat.toDigits 10 index = digits at hdigits hvalue hleading
    split
    · exact absurd rfl hdigits.1
    · exact absurd rfl hleading
    · exact absurd rfl hleading
    · rw [if_pos (List.all_eq_true.mpr hdigits.2), hvalue]

end Pointer

end ControlProps
