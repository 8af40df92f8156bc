import ControlProps.Proofs.Json.Values

/-!
# How parts are read

Items and members are read alike: up to a closing bracket, one part after the other, with commas
between them. A reading breaks off exactly if it is not whole, that is, if a fault is in it.
-/

namespace ControlProps

namespace Reading

variable {β : Type} {fuel levels : Nat} {first : Bool} {cursor : Cursor}

/-- One more part before others. -/
def consPart (part : β) : List β × Ending × Option Cursor → List β × Ending × Option Cursor
  | (parts, ending, behind) => (part :: parts, ending, behind)

/-- A value that is read and the parts behind it; where it breaks off, there are none. -/
def addParts (wrap : Reading → β) (place : Position)
    (more : Cursor → List β × Ending × Option Cursor) :
    Reading × Option Cursor → List β × Ending × Option Cursor
  | (value, none) => ([wrap value], .closed place, none)
  | (value, some behind) => consPart (wrap value) (more behind)

/-- A value and the parts behind it. -/
def readPart (wrap : Reading → β) (place : Position) (value : Cursor → Reading × Option Cursor)
    (more : Cursor → List β × Ending × Option Cursor) (cursor : Cursor) :
    List β × Ending × Option Cursor :=
  addParts wrap place more (value cursor)

/-- The parts behind a comma, of which there has to be one. -/
def readBehindComma (close : Char) (part : Cursor → List β × Ending × Option Cursor)
    (cursor : Cursor) : List β × Ending × Option Cursor :=
  match cursor.rest.head? with
  | none => ([], .broken (cursor.faultAtNext .valueUnfinished), none)
  | some c =>
    if c = close then ([], .broken (cursor.faultAtNext .trailingComma), none) else part cursor

/-- The parts of an array or object from here to its end; no blanks are ahead. -/
def readParts (close : Char) (unfinished separation : Fault)
    (part : Cursor → List β × Ending × Option Cursor) (first : Bool) (cursor : Cursor) :
    List β × Ending × Option Cursor :=
  match cursor.rest.head? with
  | none => ([], .broken (cursor.faultAtNext unfinished), none)
  | some c =>
    if c = close then ([], .closed cursor.tail.position, some cursor.tail)
    else if first then part cursor
    else if c = ',' then readBehindComma close part cursor.tail.skipBlanks
    else ([], .broken (cursor.faultAtNext separation), none)

/-- An item and the items behind it. -/
def readItem (fuel levels : Nat) (cursor : Cursor) : List Reading × Ending × Option Cursor :=
  readPart id cursor.position (readValue fuel levels) (readItems fuel levels false) cursor

/-- A member whose key is read and the members behind it; the colon should be ahead. -/
def readKeyed (fuel levels : Nat) (text : String) (colon : Cursor) :
    List (Key × Reading) × Ending × Option Cursor :=
  match colon.rest.head? with
  | some ':' =>
    readPart (Prod.mk ⟨text, colon.position⟩) colon.position (readValue fuel levels)
      (readMembers fuel levels false) colon.tail
  | head =>
    let after := if head = some '\x7d' then colon.tail.position else colon.position
    let fault := if head.isNone then Fault.objectUnfinished else .colonExpected
    let value : Reading := .broken colon.position (colon.faultAtNext fault)
    ([(⟨text, after⟩, value)], .closed colon.position, none)

/-- A member whose key may be read, and the members behind it. -/
def readBehindKey (fuel levels : Nat) :
    Except FaultAt (String × Cursor) → List (Key × Reading) × Ending × Option Cursor
  | .error found => ([], .broken found, none)
  | .ok (text, behind) => readKeyed fuel levels text behind.skipBlanks

/-- A member and the members behind it. -/
def readMember (fuel levels : Nat) (cursor : Cursor) :
    List (Key × Reading) × Ending × Option Cursor :=
  match cursor.rest with
  | '"' :: rest => readBehindKey fuel levels (readString rest (cursor.position.after '"') [])
  | _ => ([], .broken (cursor.faultAtNext .keyMustBeString), none)

/-- Items are the parts of an array. -/
theorem readItems_succ : readItems (fuel + 1) levels first cursor =
    readParts ']' .listUnfinished .listCommaOrEndExpected (readItem fuel levels) first
      cursor.skipBlanks := by
  unfold readItems
  dsimp -zeta only
  extract_lets here item next
  have hitem (place : Cursor) : item place = readItem fuel levels place := rfl
  simp only [hitem, next]
  change _ = readParts _ _ _ _ _ here
  clear_value here item
  -- the same cases on both sides: what is next, and what follows a comma
  obtain ⟨text, position⟩ := here
  cases text with
  | nil => rfl
  | cons c rest =>
    by_cases hclose : c = ']'
    · subst hclose
      rfl
    simp only [readParts, readBehindComma, List.head?_cons, if_neg hclose]
    generalize Cursor.skipBlanks _ = behind
    obtain ⟨text, position⟩ := behind
    cases text with
    | nil => simp
    | cons d more =>
      by_cases hend : d = ']'
      · subst hend
        simp
      · simp [hend]

/-- Members are the parts of an object. -/
theorem readMembers_succ : readMembers (fuel + 1) levels first cursor =
    readParts '\x7d' .objectUnfinished .objectCommaOrEndExpected (readMember fuel levels) first
      cursor.skipBlanks := by
  unfold readMembers
  dsimp -zeta only
  extract_lets here member next
  have hmember (place : Cursor) : member place = readMember fuel levels place := by
    obtain ⟨text, position⟩ := place
    cases text with
    | nil => rfl
    | cons c rest =>
      by_cases hquote : c = '"'
      · subst hquote
        simp only [member, readMember]
        cases readString rest (position.after '"') [] with
        | error found => rfl
        | ok result =>
          -- the place of the key depends on what follows it, as its value does
          obtain ⟨text, behind⟩ := result
          simp only [readBehindKey, readKeyed, afterKey]
          generalize Cursor.skipBlanks _ = colon
          obtain ⟨text, position⟩ := colon
          cases text with
          | nil => rfl
          | cons c rest =>
            by_cases hcolon : c = ':'
            · subst hcolon
              rfl
            by_cases hclose : c = '\x7d'
            · subst hclose
              rfl
            simp [hcolon, hclose]
      · simp [member, readMember, hquote]
  simp only [hmember, next]
  change _ = readParts _ _ _ _ _ here
  clear_value here member
  obtain ⟨text, position⟩ := here
  cases text with
  | nil => rfl
  | cons c rest =>
    by_cases hclose : c = '\x7d'
    · subst hclose
      rfl
    simp only [readParts, readBehindComma, List.head?_cons, if_neg hclose]
    generalize Cursor.skipBlanks _ = behind
    obtain ⟨text, position⟩ := behind
    cases text with
    | nil => simp
    | cons d more =>
      by_cases hend : d = '\x7d'
      · subst hend
        simp
      · simp [hend]

/-- An atom and what is behind it. -/
def readLeaf (cursor : Cursor) : Reading × Option Cursor :=
  match readAtom cursor with
  | .ok (value, behind) => (.atom value cursor.position behind.position, some behind)
  | .error found => (.broken cursor.position found, none)

/-- An array or object with its parts, and what is behind it. -/
def enclose (make : List β → Ending → Reading) :
    List β × Ending × Option Cursor → Reading × Option Cursor
  | (parts, ending, behind) => (make parts ending, behind)

/-- An array or object, given how its parts are read. -/
def readContainer (make : Position → List β → Ending → Reading)
    (parts : Cursor → List β × Ending × Option Cursor) (cursor : Cursor) :
    Reading × Option Cursor :=
  enclose (make cursor.position) (parts cursor.tail)

/-- A value, which its first character makes an array, an object or an atom; no blanks are ahead. -/
def readHere (fuel levels : Nat) (cursor : Cursor) : Reading × Option Cursor :=
  match cursor.rest.head?, levels with
  | some '[', 0 | some '\x7b', 0 =>
    (.broken cursor.position (cursor.faultAtNext .recursionLimit), none)
  | some '[', levels + 1 => readContainer array (readItems fuel levels true) cursor
  | some '\x7b', levels + 1 => readContainer object (readMembers fuel levels true) cursor
  | _, _ => readLeaf cursor

/-- A value stands behind blanks. -/
theorem readValue_succ :
    readValue (fuel + 1) levels cursor = readHere fuel levels cursor.skipBlanks := by
  unfold readValue
  dsimp only
  generalize cursor.skipBlanks = here
  obtain ⟨text, position⟩ := here
  cases text with
  | nil => rfl
  | cons c rest =>
    by_cases harray : c = '['
    · subst harray
      cases levels <;> rfl
    by_cases hobject : c = '\x7b'
    · subst hobject
      cases levels <;> rfl
    simp [readHere, harray, hobject]
    rfl

/-- Whether something is behind a value exactly if the value is whole. -/
def EndsIfWhole (read : Reading × Option Cursor) : Prop := read.2.isSome = true ↔ read.1.IsWhole

/-- Whether something is behind parts exactly if they are whole. -/
def PartsEndIfWhole (whole : β → Prop) (read : List β × Ending × Option Cursor) : Prop :=
  read.2.2.isSome = true ↔ ArePartsWhole whole read.1 read.2.1

/-- With a fault before any part, nothing is behind. -/
theorem partsEndIfWhole_broken {whole : β → Prop} (found : FaultAt) :
    PartsEndIfWhole whole ([], .broken found, none) := by
  simp [PartsEndIfWhole, ArePartsWhole]

/-- One more part that is whole makes no difference. -/
theorem partsEndIfWhole_consPart {whole : β → Prop} {part : β} (hpart : whole part)
    {read : List β × Ending × Option Cursor} (hread : PartsEndIfWhole whole read) :
    PartsEndIfWhole whole (consPart part read) := by
  obtain ⟨parts, ending, behind⟩ := read
  simpa [consPart, PartsEndIfWhole, ArePartsWhole, hpart] using hread

/-- Parts are looked for behind a value only if that is whole. -/
theorem partsEndIfWhole_readPart {whole : β → Prop} {wrap : Reading → β} {place : Position}
    {value : Cursor → Reading × Option Cursor} {more : Cursor → List β × Ending × Option Cursor}
    (hwrap : ∀ reading, whole (wrap reading) ↔ reading.IsWhole)
    (hvalue : ∀ here, EndsIfWhole (value here)) (hmore : ∀ here, PartsEndIfWhole whole (more here))
    (cursor : Cursor) : PartsEndIfWhole whole (readPart wrap place value more cursor) := by
  have hfirst := hvalue cursor
  unfold readPart addParts
  split
  · rename_i hread
    simpa [hread, EndsIfWhole, PartsEndIfWhole, ArePartsWhole, hwrap] using hfirst
  · rename_i reading behind hread
    rw [hread] at hfirst
    exact partsEndIfWhole_consPart ((hwrap reading).mpr (hfirst.mp rfl)) (hmore behind)

/-- A fault between parts, or an end before the closing bracket, leaves nothing behind. -/
theorem partsEndIfWhole_readParts {whole : β → Prop} {close : Char} {unfinished separation : Fault}
    {part : Cursor → List β × Ending × Option Cursor}
    (hpart : ∀ here, PartsEndIfWhole whole (part here)) (first : Bool) (cursor : Cursor) :
    PartsEndIfWhole whole (readParts close unfinished separation part first cursor) := by
  unfold readParts
  split
  · exact partsEndIfWhole_broken _
  · split
    · simp [PartsEndIfWhole, ArePartsWhole]
    · split
      · exact hpart cursor
      · split
        · unfold readBehindComma
          split
          · exact partsEndIfWhole_broken _
          · split
            · exact partsEndIfWhole_broken _
            · exact hpart _
        · exact partsEndIfWhole_broken _

/-- Behind an atom there is always something; a fault is no atom. -/
theorem endsIfWhole_readLeaf (cursor : Cursor) : EndsIfWhole (readLeaf cursor) := by
  unfold readLeaf
  split
  · simp [EndsIfWhole, isWhole_atom]
  · simp [EndsIfWhole, not_isWhole_broken]

section Steps

variable (hvalue : ∀ levels cursor, EndsIfWhole (readValue fuel levels cursor))
  (hitems : ∀ levels first cursor, PartsEndIfWhole IsWhole (readItems fuel levels first cursor))
  (hmembers : ∀ levels first cursor,
    PartsEndIfWhole IsMemberWhole (readMembers fuel levels first cursor))

include hitems hmembers in
/-- A value breaks off where the parts of an array or object do. -/
theorem endsIfWhole_readValue_succ (levels : Nat) (cursor : Cursor) :
    EndsIfWhole (readValue (fuel + 1) levels cursor) := by
  rw [readValue_succ]
  unfold readHere
  split
  · simp [EndsIfWhole, not_isWhole_broken]
  · simp [EndsIfWhole, not_isWhole_broken]
  · exact (hitems _ _ _).trans isWhole_array_iff.symm
  · exact (hmembers _ _ _).trans isWhole_object_iff.symm
  · exact endsIfWhole_readLeaf _

include hvalue hitems in
/-- Items break off where one of them does, or between them. -/
theorem partsEndIfWhole_readItems_succ (levels : Nat) (first : Bool) (cursor : Cursor) :
    PartsEndIfWhole IsWhole (readItems (fuel + 1) levels first cursor) := by
  rw [readItems_succ]
  refine partsEndIfWhole_readParts (fun here => ?_) _ _
  have hwrap (reading : Reading) : (id reading).IsWhole ↔ reading.IsWhole := Iff.rfl
  exact partsEndIfWhole_readPart hwrap (hvalue levels) (hitems levels false) here

include hvalue hmembers in
/-- A member breaks off in its key, at its colon or in its value. -/
theorem partsEndIfWhole_readMember (levels : Nat) (cursor : Cursor) :
    PartsEndIfWhole IsMemberWhole (readMember fuel levels cursor) := by
  unfold readMember
  split
  · unfold readBehindKey
    split
    · exact partsEndIfWhole_broken _
    · unfold readKeyed
      split
      · have hwrap (key : Key) (reading : Reading) :
            IsMemberWhole (key, reading) ↔ reading.IsWhole := Iff.rfl
        exact partsEndIfWhole_readPart (hwrap _) (hvalue levels) (hmembers levels false) _
      · simp [PartsEndIfWhole, ArePartsWhole, IsMemberWhole, not_isWhole_broken]
  · exact partsEndIfWhole_broken _

include hvalue hmembers in
/-- Members break off where one of them does, or between them. -/
theorem partsEndIfWhole_readMembers_succ (levels : Nat) (first : Bool) (cursor : Cursor) :
    PartsEndIfWhole IsMemberWhole (readMembers (fuel + 1) levels first cursor) := by
  rw [readMembers_succ]
  exact partsEndIfWhole_readParts (partsEndIfWhole_readMember hvalue hmembers levels) _ _

end Steps

/-- With any fuel, something is behind a value, items or members exactly if they are whole. -/
theorem endsIfWhole_read (fuel : Nat) :
    (∀ levels cursor, EndsIfWhole (readValue fuel levels cursor)) ∧
      (∀ levels first cursor, PartsEndIfWhole IsWhole (readItems fuel levels first cursor)) ∧
      ∀ levels first cursor,
        PartsEndIfWhole IsMemberWhole (readMembers fuel levels first cursor) := by
  induction fuel with
  | zero =>
    refine ⟨fun _ _ => ?_, fun _ _ _ => ?_, fun _ _ _ => ?_⟩
    · simp [readValue, EndsIfWhole, not_isWhole_broken]
    · exact partsEndIfWhole_broken _
    · exact partsEndIfWhole_broken _
  | succ fuel ih =>
    obtain ⟨hvalue, hitems, hmembers⟩ := ih
    refine ⟨?_, ?_, ?_⟩
    · exact endsIfWhole_readValue_succ hitems hmembers
    · exact partsEndIfWhole_readItems_succ hvalue hitems
    · exact partsEndIfWhole_readMembers_succ hvalue hmembers

end Reading

end ControlProps
