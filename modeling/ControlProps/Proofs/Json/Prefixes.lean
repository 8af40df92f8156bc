import ControlProps.Proofs.Json.Continuations

/-!
# Texts that begin with a value

What is read of an array or object that begins a text is read in every text that it begins, so
what is behind it is not looked at. A text is one value if nothing but blanks is behind the first.
-/

namespace ControlProps

variable {α β : Type} {cursor mid behind : Cursor} {usedFirst : List Char}
  {free freeFirst : Prop} {result : Cursor → α}

/--
Between two places a reader takes some characters off the text, given a step of fuel for each of
them but one.
-/
def TakesWithin (free : Prop) (read : Nat → Cursor → α) (result : Cursor → α)
    (cursor behind : Cursor) : Prop :=
  ∃ used, used ≠ [] ∧
    ∀ fuel, used.length ≤ fuel + 1 → Takes free (read fuel) result cursor behind used

namespace TakesWithin

variable {readWithin : Nat → Cursor → α}

/-- What may follow freely may also begin as it does here. -/
theorem of_free (htakes : TakesWithin True readWithin result cursor behind) :
    TakesWithin free readWithin result cursor behind := by
  obtain ⟨used, hused, htakes⟩ := htakes
  exact ⟨used, hused, fun fuel hfuel => ⟨(htakes fuel hfuel).1, fun back _ =>
    (htakes fuel hfuel).2 back (.inl trivial)⟩⟩

/-- More characters before those need no less fuel. -/
theorem after {readFirst : Nat → Cursor → α}
    (hfirst : ∀ fuel, Takes freeFirst (readFirst fuel) (readWithin fuel) cursor mid usedFirst)
    (htakes : TakesWithin free readWithin result mid behind) :
    TakesWithin free readFirst result cursor behind := by
  obtain ⟨used, hused, htakes⟩ := htakes
  refine ⟨usedFirst ++ used, List.append_ne_nil_of_right_ne_nil _ hused, fun fuel hfuel => ?_⟩
  have hlater := htakes fuel (by rw [List.length_append] at hfuel; omega)
  exact (hfirst fuel).trans hlater fun hfree => ⟨hfree, .inr hused⟩

/-- Blanks may stand before. -/
theorem behind_blanks (htakes : TakesWithin free readWithin result cursor.skipBlanks behind) :
    TakesWithin free (fun fuel here => readWithin fuel here.skipBlanks) result cursor behind :=
  htakes.after fun fuel => takes_while Cursor.isBlankBetween (fun _ => readWithin fuel) cursor

/-- A reader whose next step is chosen by the next character. -/
theorem of_head {other : Nat → Cursor → α}
    (htakes : TakesWithin free readWithin result cursor behind)
    (hsame : ∀ fuel here, here.rest.head? = cursor.rest.head? →
      other fuel here = readWithin fuel here) :
    TakesWithin free other result cursor behind := by
  obtain ⟨used, hused, htakes⟩ := htakes
  exact ⟨used, hused, fun fuel hfuel => (htakes fuel hfuel).of_head (fun _ => hused) (hsame fuel)⟩

end TakesWithin

namespace Reading

variable {parts : List β} {ending : Ending} {reading : Reading}

/-- A value and the parts behind it each take a character, so a step of fuel is left to each. -/
theorem takesWithin_readPart {wrap : Reading → β} {place : Position}
    {value : Nat → Cursor → Reading × Option Cursor}
    {more : Nat → Cursor → List β × Ending × Option Cursor}
    (hvalue : TakesWithin free (fun fuel => value (fuel + 1)) (fun here => (reading, some here))
      cursor mid)
    (hmore : TakesWithin True (fun fuel => more (fuel + 1)) (fun here => (parts, ending, some here))
      mid behind) :
    TakesWithin True (fun fuel => readPart wrap place (value fuel) (more fuel))
      (fun here => (wrap reading :: parts, ending, some here)) cursor behind := by
  obtain ⟨front, hfront, hvalue⟩ := hvalue
  obtain ⟨back, hback, hmore⟩ := hmore
  refine ⟨front ++ back, List.append_ne_nil_of_left_ne_nil hfront _, fun fuel hfuel => ?_⟩
  rw [List.length_append] at hfuel
  -- what one of them takes is fuel that the other one does not need
  have hsome := List.length_pos_iff.mpr hfront
  have hlast := List.length_pos_iff.mpr hback
  cases fuel with
  | zero => omega
  | succ fuel =>
    have hfirst := (hvalue fuel (by omega)).map (addParts wrap place (more (fuel + 1)))
    have hrest := (hmore fuel (by omega)).map (consPart (wrap reading))
    exact hfirst.trans hrest fun _ => ⟨trivial, .inr hback⟩

/-- Parts that end begin with a value that ends. -/
theorem readPart_eq_some {wrap : Reading → β} {place : Position}
    {value : Cursor → Reading × Option Cursor}
    {more : Cursor → List β × Ending × Option Cursor}
    (hread : readPart wrap place value more cursor = (parts, ending, some behind)) :
    ∃ reading mid later, value cursor = (reading, some mid) ∧
      more mid = (later, ending, some behind) ∧ parts = wrap reading :: later := by
  unfold readPart addParts at hread
  split at hread
  · simp at hread
  · rename_i reading mid hvalue
    obtain ⟨rfl, hrest⟩ := Prod.mk.inj hread
    obtain ⟨rfl, hbehind⟩ := Prod.mk.inj hrest
    exact ⟨reading, mid, _, hvalue, Prod.ext rfl (Prod.ext rfl hbehind), rfl⟩

/--
What is known of parts that end is read again, given fuel, whatever follows the closing bracket.
-/
def PartTakes (known : Cursor → List β × Ending × Option Cursor)
    (part : Nat → Cursor → List β × Ending × Option Cursor) : Prop :=
  ∀ here parts ending behind, known here = (parts, ending, some behind) →
    TakesWithin True part (fun later => (parts, ending, some later)) here behind

/-- What follows a comma is a part, which the next character says. -/
theorem partTakes_readBehindComma {close : Char}
    {known : Cursor → List β × Ending × Option Cursor}
    {part : Nat → Cursor → List β × Ending × Option Cursor} (hpart : PartTakes known part) :
    PartTakes (readBehindComma close known) (fun fuel => readBehindComma close (part fuel)) := by
  intro here parts ending behind hread
  unfold readBehindComma at hread
  split at hread
  · simp at hread
  · rename_i c hhead
    split at hread
    · simp at hread
    · rename_i hclose
      refine (hpart _ _ _ _ hread).of_head fun fuel other hsame => ?_
      simp only [readBehindComma, hsame, hhead, if_neg hclose]

/-- Parts end with the closing bracket, which is the last character taken. -/
theorem partTakes_readParts {close : Char} {unfinished separation : Fault}
    {known : Cursor → List β × Ending × Option Cursor}
    {part : Nat → Cursor → List β × Ending × Option Cursor} (hpart : PartTakes known part)
    (first : Bool) :
    PartTakes (readParts close unfinished separation known first)
      (fun fuel => readParts close unfinished separation (part fuel) first) := by
  intro here parts ending behind hread
  unfold readParts at hread
  split at hread
  · simp at hread
  rename_i c hhead
  split at hread
  · rename_i hclose
    simp only [Prod.mk.injEq, Option.some.injEq] at hread
    obtain ⟨rfl, rfl, rfl⟩ := hread
    obtain ⟨text, position⟩ := here
    obtain ⟨rest, rfl⟩ := List.head?_eq_some_iff.mp hhead
    refine ⟨[c], List.cons_ne_nil _ _, fun fuel _ => .of_step [c] fun more => ?_⟩
    simp [readParts, hclose, Cursor.tail]
  rename_i hclose
  split at hread
  · rename_i hfirst
    refine (hpart _ _ _ _ hread).of_head fun fuel other hsame => ?_
    simp only [readParts, hsame, hhead, if_neg hclose, if_pos hfirst]
  rename_i hfirst
  split at hread
  · rename_i hcomma
    have hlater := ((partTakes_readBehindComma hpart _ _ _ _ hread).behind_blanks).after
      fun _ => .tail _ hhead
    refine hlater.of_head fun fuel other hsame => ?_
    simp only [readParts, hsame, hhead, if_neg hclose, if_neg hfirst, if_pos hcomma]
  · simp at hread

/--
What is known of a value that ends is read again, given fuel, whatever follows a closing bracket;
what follows an atom has to begin as it does here.
-/
def ValueTakes (knownValue : Cursor → Reading × Option Cursor)
    (value : Nat → Cursor → Reading × Option Cursor) : Prop :=
  ∀ here reading behind, knownValue here = (reading, some behind) →
    TakesWithin reading.IsContainer value (fun later => (reading, some later)) here behind

/-- Where parts end, the value before them ends first. -/
theorem partTakes_readPart {wrap : Reading → β} {place : Position}
    {knownValue : Cursor → Reading × Option Cursor} {value : Nat → Cursor → Reading × Option Cursor}
    {knownMore : Cursor → List β × Ending × Option Cursor}
    {more : Nat → Cursor → List β × Ending × Option Cursor}
    (hvalue : ValueTakes knownValue fun fuel => value (fuel + 1))
    (hmore : PartTakes knownMore fun fuel => more (fuel + 1)) :
    PartTakes (readPart wrap place knownValue knownMore)
      (fun fuel => readPart wrap place (value fuel) (more fuel)) := by
  intro here parts ending behind hread
  obtain ⟨reading, mid, later, hfirst, hlater, rfl⟩ := readPart_eq_some hread
  exact takesWithin_readPart (hvalue _ _ _ hfirst) (hmore _ _ _ _ hlater)

section Steps

variable {fuel : Nat}
  (hvalue : ∀ levels, ValueTakes (readValue fuel levels) fun later => readValue (later + 1) levels)
  (hitems : ∀ levels first, PartTakes (readItems fuel levels first)
    fun later => readItems (later + 1) levels first)
  (hmembers : ∀ levels first, PartTakes (readMembers fuel levels first)
    fun later => readMembers (later + 1) levels first)

include hvalue hitems in
/-- An item ends before the items behind it. -/
theorem partTakes_readItem (levels : Nat) :
    PartTakes (readItem fuel levels) fun later => readItem later levels := by
  intro here parts ending behind hread
  have hpart : PartTakes
      (readPart id here.position (readValue fuel levels) (readItems fuel levels false))
      fun later => readPart id here.position (readValue later levels)
        (readItems later levels false) :=
    partTakes_readPart (hvalue levels) (hitems levels false)
  obtain ⟨used, hused, htakes⟩ := hpart _ _ _ _ hread
  exact ⟨used, hused, htakes⟩

include hvalue hitems in
/-- Items need one step of fuel more than the first of them. -/
theorem partTakes_readItems_succ (levels : Nat) (first : Bool) :
    PartTakes (readItems (fuel + 1) levels first)
      fun later => readItems (later + 1) levels first := by
  intro here parts ending behind hread
  rw [readItems_succ] at hread
  have hparts := partTakes_readParts (partTakes_readItem hvalue hitems levels) first _ _ _ _ hread
  simpa only [← readItems_succ] using hparts.behind_blanks

include hvalue hmembers in
/-- Behind its key, a member ends before the members behind it. -/
theorem partTakes_readKeyed (levels : Nat) (key : String) :
    PartTakes (readKeyed fuel levels key) fun later => readKeyed later levels key := by
  intro here parts ending behind hread
  unfold readKeyed at hread
  split at hread
  · rename_i hcolon
    have hpart : PartTakes
        (readPart (Prod.mk ⟨key, here.position⟩) here.position (readValue fuel levels)
          (readMembers fuel levels false))
        fun later => readPart (Prod.mk ⟨key, here.position⟩) here.position
          (readValue later levels) (readMembers later levels false) :=
      partTakes_readPart (hvalue levels) (hmembers levels false)
    obtain ⟨text, position⟩ := here
    obtain ⟨rest, rfl⟩ := List.head?_eq_some_iff.mp hcolon
    exact (hpart _ _ _ _ hread).after fun later => .of_step [':'] fun more => rfl
  · simp at hread

include hvalue hmembers in
/-- A member begins with its key, whose last character is a quote. -/
theorem partTakes_readMember (levels : Nat) :
    PartTakes (readMember fuel levels) fun later => readMember later levels := by
  intro here parts ending behind hread
  obtain ⟨text, position⟩ := here
  unfold readMember at hread
  split at hread
  · rename_i rest heq
    obtain rfl : text = '"' :: rest := heq
    unfold readBehindKey at hread
    split at hread
    · simp at hread
    · rename_i key past hstring
      obtain ⟨used, hused⟩ := @takes_readString ⟨rest, position.after '"'⟩ _ _ _ hstring
      have hkeyed := (partTakes_readKeyed hvalue hmembers levels key _ _ _ _ hread).behind_blanks
      exact (hkeyed.after fun later => hused.map (readBehindKey later levels)).after
        fun later => .of_step ['"'] fun more => rfl
  · simp at hread

include hvalue hmembers in
/-- Members need one step of fuel more than the first of them. -/
theorem partTakes_readMembers_succ (levels : Nat) (first : Bool) :
    PartTakes (readMembers (fuel + 1) levels first)
      fun later => readMembers (later + 1) levels first := by
  intro here parts ending behind hread
  rw [readMembers_succ] at hread
  have hparts :=
    partTakes_readParts (partTakes_readMember hvalue hmembers levels) first _ _ _ _ hread
  simpa only [← readMembers_succ] using hparts.behind_blanks

/-- An array or object; its opening bracket takes the step of fuel. -/
theorem takesWithin_readContainer {make : Position → List β → Ending → Reading}
    {known : Cursor → List β × Ending × Option Cursor}
    (parts : Nat → Cursor → List β × Ending × Option Cursor) {c : Char}
    (hparts : PartTakes known fun later => parts (later + 1))
    (hhead : cursor.rest.head? = some c)
    (hread : readContainer make known cursor = (reading, some behind)) :
    TakesWithin True (fun later => readContainer make (parts later))
      (fun later => (reading, some later)) cursor behind := by
  obtain ⟨text, position⟩ := cursor
  obtain ⟨rest, rfl⟩ := List.head?_eq_some_iff.mp hhead
  obtain ⟨rfl, hbehind⟩ := Prod.mk.inj hread
  obtain ⟨used, hused, htakes⟩ := hparts ⟨rest, position.after c⟩ _ _ behind
    (Prod.ext rfl (Prod.ext rfl hbehind))
  have hsome := List.length_pos_iff.mpr hused
  refine ⟨[c] ++ used, List.cons_ne_nil _ _, fun later hlater => ?_⟩
  rw [List.length_append, List.length_singleton] at hlater
  cases later with
  | zero => omega
  | succ later =>
    have hmade := (htakes later (by omega)).map (enclose (make position))
    refine Takes.trans_free ?_ hmade
    exact .of_step [c] fun more => rfl

/-- An atom ends where no more of it follows; it is no array or object. -/
theorem takesWithin_readLeaf (hread : readLeaf cursor = (reading, some behind)) :
    ¬reading.IsContainer ∧ TakesWithin False (fun _ => readLeaf)
      (fun later => (reading, some later)) cursor behind := by
  unfold readLeaf at hread
  split at hread
  · rename_i value past hatom
    obtain ⟨rfl, hbehind⟩ := Prod.mk.inj hread
    obtain rfl := Option.some.inj hbehind
    obtain ⟨used, hused, htakes⟩ := takes_readAtom hatom
    refine ⟨id, used, hused, fun _ _ => ⟨htakes.1, fun back hback => ?_⟩⟩
    simp only [readLeaf, htakes.2 back hback]
  · simp at hread

include hitems hmembers in
/-- Which kind of value it is, the next character says. -/
theorem valueTakes_readHere (levels : Nat) :
    ValueTakes (readHere fuel levels) fun later => readHere later levels := by
  intro here reading behind hread
  unfold readHere at hread
  split at hread
  · simp at hread
  · simp at hread
  · rename_i levels hhead
    have hmade := takesWithin_readContainer (fun later => readItems later levels true)
      (hitems levels true) hhead hread
    refine hmade.of_free.of_head fun later here hsame => ?_
    unfold readHere
    rw [hsame, hhead]
    rfl
  · rename_i levels hhead
    have hmade := takesWithin_readContainer (fun later => readMembers later levels true)
      (hmembers levels true) hhead hread
    refine hmade.of_free.of_head fun later here hsame => ?_
    unfold readHere
    rw [hsame, hhead]
    rfl
  · rename_i harray hobject _ _
    obtain ⟨hleaf, htakes⟩ := takesWithin_readLeaf hread
    rw [eq_false hleaf]
    refine htakes.of_head fun later here hsame => ?_
    unfold readHere
    rw [hsame]
    split <;> simp_all

include hitems hmembers in
/-- Blanks before a value are taken as well. -/
theorem valueTakes_readValue_succ (levels : Nat) :
    ValueTakes (readValue (fuel + 1) levels) fun later => readValue (later + 1) levels := by
  intro here reading behind hread
  rw [readValue_succ] at hread
  have hhere := valueTakes_readHere hitems hmembers levels _ _ _ hread
  simpa only [← readValue_succ] using hhere.behind_blanks

end Steps

/-- Whatever ends is read again, whatever follows its closing bracket. -/
theorem valueTakes_read (fuel : Nat) :
    (∀ levels, ValueTakes (readValue fuel levels) fun later => readValue (later + 1) levels) ∧
      (∀ levels first, PartTakes (readItems fuel levels first)
        fun later => readItems (later + 1) levels first) ∧
      ∀ levels first, PartTakes (readMembers fuel levels first)
        fun later => readMembers (later + 1) levels first := by
  -- the induction is on the fuel of what is known; what is read again has fuel for its length
  induction fuel with
  | zero =>
    refine ⟨fun _ _ _ _ hread => ?_, fun _ _ _ _ _ _ hread => ?_, fun _ _ _ _ _ _ hread => ?_⟩
    · simp [readValue] at hread
    · simp [readItems] at hread
    · simp [readMembers] at hread
  | succ fuel ih =>
    obtain ⟨hvalue, hitems, hmembers⟩ := ih
    exact ⟨valueTakes_readValue_succ hitems hmembers, partTakes_readItems_succ hvalue hitems,
      partTakes_readMembers_succ hvalue hmembers⟩

/-- Whether something is behind the first value of a text says whether that value is whole. -/
theorem isSome_first_iff (levels : Nat) (text : String) :
    (first levels text).2.isSome = true ↔ (first levels text).1.IsWhole :=
  (endsIfWhole_read _).1 _ _

/-- An array or object that begins a text is read in every text that it begins. -/
theorem first_append {levels : Nat} {text : String}
    (hread : first levels text = (reading, some behind)) (hcontainer : reading.IsContainer) :
    ∃ used, text.toList = used ++ behind.rest ∧ ∀ back,
      first levels (String.ofList (used ++ back)) = (reading, some ⟨back, behind.position⟩) := by
  obtain ⟨used, _, htakes⟩ := (valueTakes_read _).1 levels _ _ _ hread
  have hfuel (back : List Char) : used.length ≤ 2 * (used ++ back).length + 1 + 1 := by
    rw [List.length_append]
    omega
  refine ⟨used, (htakes _ (hfuel [])).1, fun back => ?_⟩
  have hfirst := (htakes _ (hfuel back)).2 back (.inl hcontainer)
  rw [first, String.toList_ofList]
  exact hfirst

end Reading

namespace Json

/-- A text is a value if its first value is whole and only blanks are behind it. -/
theorem parse_eq_ok_iff {text : String} {json : Json} :
    parse text = .ok json ↔ (Reading.ofText text).toJson = .ok json ∧
      ∃ behind, (Reading.first Reading.levelLimit text).2 = some behind ∧
        ∀ c ∈ behind.rest, Cursor.isBlankBetween c = true := by
  have hends := Reading.isSome_first_iff Reading.levelLimit text
  rw [parse, parseWithin, Reading.ofText, bind_eq_ok_iff]
  generalize Reading.first Reading.levelLimit text = read at hends ⊢
  obtain ⟨reading, behind⟩ := read
  constructor
  · rintro ⟨value, hvalue, hrest⟩
    have hvalue := mapError_eq_ok_iff.mp hvalue
    obtain ⟨behind, rfl⟩ := Option.isSome_iff_exists.mp (hends.mpr ⟨value, hvalue⟩)
    dsimp only [Option.map_some] at hrest
    split at hrest
    · rename_i hempty
      obtain rfl := Except.ok.inj hrest
      refine ⟨hvalue, behind, rfl, ?_⟩
      simpa [Cursor.skipBlanks] using hempty
    · contradiction
  · rintro ⟨hvalue, behind, rfl, hblanks⟩
    refine ⟨json, mapError_eq_ok_iff.mpr hvalue, ?_⟩
    have hempty : behind.skipBlanks.rest.isEmpty = true := by
      simpa [Cursor.skipBlanks] using hblanks
    simp only [Option.map_some, hempty, if_true]
    rfl

end Json

end ControlProps
