import ControlProps.Engine.Expression
import Mathlib.Computability.Language

/-!
# What expressions match

A match goes from one place of a text to another one, and what an expression matches is said by
recursion on it. `Expression.advance` gives exactly the places that matches lead to. For repetition
without a limit it takes as many rounds as there are characters: a step that takes no character
stays where it is, so no more steps are ever needed. Without anchors an expression has a language,
and its matches are the stretches of text in that language.
-/

namespace ControlProps

/-- A number of moves one after the other. -/
inductive Moves (move : Nat → Nat → Prop) : Nat → Nat → Nat → Prop
  | none {place : Nat} : Moves move 0 place place
  | next {count first second last : Nat} (hfirst : move first second)
    (hothers : Moves move count second last) : Moves move (count + 1) first last

namespace Expression

/-- Whether a match goes from one place of a text to another one. -/
def Matches (text : Array Char) : Expression → Nat → Nat → Prop
  | empty, first, last => last = first
  | one set, first, last => Places.past? text set first = some last
  | anchor condition, first, last => last = first ∧ Places.satisfies text first condition = true
  | sequence a b, first, last => ∃ middle, a.Matches text first middle ∧ b.Matches text middle last
  | alternatives a b, first, last => a.Matches text first last ∨ b.Matches text first last
  | repeated body least most, first, last =>
    ∃ more, (∀ limit ∈ most, more ≤ limit - least) ∧
      Moves (body.Matches text) (least + more) first last

end Expression

/-- A move that takes no character stays where it is. -/
def Progresses (text : Array Char) (move : Nat → Nat → Prop) : Prop :=
  ∀ first last, move first last → last = first ∨ first < last ∧ last ≤ text.size

namespace Moves

variable {text : Array Char} {move : Nat → Nat → Prop} {first middle last count : Nat}

/-- Some moves and then some more are all of them one after the other. -/
theorem add_iff {more : Nat} : Moves move (count + more) first last ↔
    ∃ middle, Moves move count first middle ∧ Moves move more middle last := by
  constructor
  · intro hmoves
    induction count generalizing first with
    | zero =>
      rw [Nat.zero_add] at hmoves
      exact ⟨first, .none, hmoves⟩
    | succ count ih =>
      rw [Nat.add_right_comm] at hmoves
      cases hmoves with
      | next hfirst hothers =>
        obtain ⟨middle, hfront, hback⟩ := ih hothers
        exact ⟨middle, .next hfirst hfront, hback⟩
  · rintro ⟨middle, hfront, hback⟩
    induction hfront with
    | none =>
      rw [Nat.zero_add]
      exact hback
    | next hfirst _ ih =>
      rw [Nat.add_right_comm]
      exact .next hfirst (ih hback)

/-- Many moves progress as each of them does. -/
theorem progresses (hmove : Progresses text move) (count : Nat) :
    Progresses text (Moves move count) := by
  intro first last hmoves
  induction hmoves with
  | none => exact .inl rfl
  | next hfirst _ ih =>
    rcases hmove _ _ hfirst with rfl | hless
    · exact ih
    · rcases ih with rfl | hrest
      · exact .inr hless
      · exact .inr ⟨Nat.lt_trans hless.1 hrest.1, hrest.2⟩

/-- Without the moves that stay where they are, there are no more than characters left. -/
theorem exists_le_size (hmove : Progresses text move) (hmoves : Moves move count first last) :
    ∃ fewer ≤ text.size - first, Moves move fewer first last := by
  induction hmoves with
  | none => exact ⟨0, Nat.zero_le _, .none⟩
  | next hfirst _ ih =>
    obtain ⟨fewer, hfewer, hothers⟩ := ih
    rcases hmove _ _ hfirst with rfl | hless
    · exact ⟨fewer, hfewer, hothers⟩
    · exact ⟨fewer + 1, by omega, .next hfirst hothers⟩

end Moves

namespace Places

variable {text : Array Char} {step : List Nat → List Nat} {move : Nat → Nat → Prop}
  {place last : Nat} {places recent : List Nat}

/-- The places that a step leads to are those that a move leads to from one of the given places. -/
def Steps (step : List Nat → List Nat) (move : Nat → Nat → Prop) : Prop :=
  ∀ places last, last ∈ step places ↔ ∃ first ∈ places, move first last

/-- A step after another one leads to where one move after another one leads. -/
theorem Steps.comp {after : List Nat → List Nat} {moveAfter : Nat → Nat → Prop}
    (hafter : Steps after moveAfter) (hstep : Steps step move) :
    Steps (after ∘ step) fun first last => ∃ middle, move first middle ∧ moveAfter middle last := by
  intro places last
  rw [Function.comp_apply, hafter]
  constructor
  · rintro ⟨middle, hmiddle, hback⟩
    obtain ⟨first, hfirst, hfront⟩ := (hstep places middle).mp hmiddle
    exact ⟨first, hfirst, middle, hfront, hback⟩
  · rintro ⟨first, hfirst, middle, hfront, hback⟩
    exact ⟨middle, (hstep places middle).mpr ⟨first, hfirst, hfront⟩, hback⟩

/-- The new ones are those that are not known. -/
@[simp] theorem mem_without {known : List Nat} :
    place ∈ without known places ↔ place ∈ places ∧ place ∉ known := by
  simp [without]

/-- With the new ones there are those of both lists. -/
theorem mem_append_without {more : List Nat} :
    place ∈ places ++ without places more ↔ place ∈ places ∨ place ∈ more := by
  by_cases hplace : place ∈ places <;> simp [hplace]

/-- A step taken several times leads to where as many moves lead. -/
theorem steps_steps (hstep : Steps step move) (count : Nat) :
    Steps (steps step count) (Moves move count) := by
  induction count with
  | zero =>
    intro places last
    refine ⟨fun hlast => ⟨last, hlast, .none⟩, ?_⟩
    rintro ⟨_, hlast, ⟨⟩⟩
    exact hlast
  | succ count ih =>
    intro places last
    rw [steps, ih]
    constructor
    · rintro ⟨second, hsecond, hothers⟩
      obtain ⟨first, hfirst, hmove⟩ := (hstep places second).mp hsecond
      exact ⟨first, hfirst, .next hmove hothers⟩
    · rintro ⟨first, hfirst, hmoves⟩
      cases hmoves with
      | @next _ _ second _ hmove hothers =>
        exact ⟨second, (hstep places second).mpr ⟨first, hfirst, hmove⟩, hothers⟩

/-- A step taken at most a number of times leads to where at most as many moves lead. -/
theorem steps_stepsUpTo (hstep : Steps step move) (most : Nat) :
    Steps (stepsUpTo step most) fun first last => ∃ count ≤ most, Moves move count first last := by
  induction most with
  | zero =>
    intro places last
    refine ⟨fun hlast => ⟨last, hlast, 0, Nat.le_refl 0, .none⟩, ?_⟩
    rintro ⟨_, hlast, count, hcount, hmoves⟩
    obtain rfl := Nat.le_zero.mp hcount
    cases hmoves
    exact hlast
  | succ most ih =>
    intro places last
    rw [stepsUpTo, mem_append_without, ih]
    constructor
    · rintro (hlast | ⟨second, hsecond, count, hcount, hothers⟩)
      · exact ⟨last, hlast, 0, Nat.zero_le _, .none⟩
      · obtain ⟨first, hfirst, hmove⟩ := (hstep places second).mp hsecond
        exact ⟨first, hfirst, count + 1, Nat.succ_le_succ hcount, .next hmove hothers⟩
    · rintro ⟨first, hfirst, count, hcount, hmoves⟩
      cases hmoves with
      | none => exact .inl hfirst
      | @next count _ second _ hmove hothers =>
        have hsecond := (hstep places second).mpr ⟨first, hfirst, hmove⟩
        exact .inr ⟨second, hsecond, count, Nat.le_of_succ_le_succ hcount, hothers⟩

/-- The closure keeps the places that it begins with. -/
theorem mem_closure_of_mem {rounds : Nat} (hplace : place ∈ places) :
    place ∈ closure step rounds places recent := by
  induction rounds generalizing places recent with
  | zero => exact hplace
  | succ rounds ih =>
    unfold closure
    split
    · exact hplace
    · exact ih (List.mem_append_left _ hplace)

/-- The closure has only places that moves lead to. -/
theorem exists_moves_of_mem_closure (hstep : Steps step move) {rounds : Nat}
    (hrecent : ∀ place ∈ recent, place ∈ places)
    (hlast : last ∈ closure step rounds places recent) :
    ∃ first ∈ places, ∃ count, Moves move count first last := by
  induction rounds generalizing places recent with
  | zero => exact ⟨last, hlast, 0, .none⟩
  | succ rounds ih =>
    unfold closure at hlast
    split at hlast
    · exact ⟨last, hlast, 0, .none⟩
    · obtain ⟨second, hsecond, count, hmoves⟩ := ih (fun _ => List.mem_append_right _) hlast
      rcases mem_append_without.mp hsecond with hold | hnew
      · exact ⟨second, hold, count, hmoves⟩
      · obtain ⟨first, hfirst, hmove⟩ := (hstep recent second).mp hnew
        exact ⟨first, hrecent first hfirst, count + 1, .next hmove hmoves⟩

/-- Whether the moves from all but the recent places lead to places that are reached. -/
def ClosedBut (move : Nat → Nat → Prop) (recent places : List Nat) : Prop :=
  ∀ first ∈ places, first ∉ recent → ∀ second, move first second → second ∈ places

/-- A round closes what was recent before it. -/
theorem ClosedBut.round (hclosed : ClosedBut move recent places) (hstep : Steps step move) :
    ∀ first ∈ places, ∀ second, move first second →
      second ∈ places ++ without places (step recent) := by
  intro first hfirst second hmove
  rw [mem_append_without]
  by_cases hrecent : first ∈ recent
  · exact .inr ((hstep recent second).mpr ⟨first, hrecent, hmove⟩)
  · exact .inl (hclosed first hfirst hrecent second hmove)

/-- The closure has the places that at most as many moves as there are rounds lead to. -/
theorem mem_closure_of_moves (hstep : Steps step move) {rounds count first : Nat}
    (hclosed : ClosedBut move recent places) (hfirst : first ∈ places) (hcount : count ≤ rounds)
    (hmoves : Moves move count first last) : last ∈ closure step rounds places recent := by
  induction rounds generalizing places recent count first with
  | zero =>
    obtain rfl := Nat.le_zero.mp hcount
    cases hmoves
    exact hfirst
  | succ rounds ih =>
    have hround := hclosed.round hstep
    unfold closure
    split
    · rename_i hnothing
      -- nothing is new, so moves lead nowhere else
      rw [hnothing, List.append_nil] at hround
      clear hcount ih
      induction hmoves with
      | none => exact hfirst
      | next hmove _ ihmoves => exact ihmoves (hround _ hfirst _ hmove)
    · cases hmoves with
      | none => exact mem_closure_of_mem (List.mem_append_left _ hfirst)
      | @next _ _ second _ hmove hothers =>
        refine ih (fun middle hmiddle hold => ?_) (hround first hfirst second hmove)
          (Nat.le_of_succ_le_succ hcount) hothers
        exact hround middle ((List.mem_append.mp hmiddle).resolve_right hold)

/-- With a round for each character, the closure has all places that moves lead to. -/
theorem steps_closure (hstep : Steps step move) (hmove : Progresses text move) :
    Steps (fun places => closure step text.size places places)
      fun first last => ∃ count, Moves move count first last := by
  intro places last
  refine ⟨exists_moves_of_mem_closure hstep fun _ => id, ?_⟩
  rintro ⟨first, hfirst, count, hmoves⟩
  obtain ⟨fewer, hfewer, hmoves⟩ := hmoves.exists_le_size hmove
  have hclosed : ClosedBut move places places := fun first hfirst hold => absurd hfirst hold
  exact mem_closure_of_moves hstep hclosed hfirst (by omega) hmoves

/-- Past a character of the set, and only there. -/
theorem past?_eq_some_iff {set : CharSet} {first : Nat} :
    past? text set first = some last ↔
      ∃ c, text[first]? = some c ∧ set.contains c = true ∧ last = first + 1 := by
  rw [past?]
  cases text[first]? with
  | none => simp
  | some c =>
    simp only [Option.any_some, Option.ite_none_right_eq_some, Option.some.injEq, exists_eq_left']
    rw [@eq_comm _ last]

end Places

namespace Expression

variable {text : Array Char}

/-- A match that takes no character stays where it is. -/
theorem progresses_matches (expression : Expression) :
    Progresses text (expression.Matches text) := by
  induction expression with
  | empty => exact fun _ _ hlast => .inl hlast
  | one set =>
    intro first last hpast
    obtain ⟨c, hahead, _, rfl⟩ := Places.past?_eq_some_iff.mp hpast
    obtain ⟨hsize, _⟩ := Array.getElem?_eq_some_iff.mp hahead
    exact .inr ⟨Nat.lt_succ_self first, hsize⟩
  | anchor condition => exact fun _ _ hmatch => .inl hmatch.1
  | sequence a b iha ihb =>
    rintro first last ⟨middle, ha, hb⟩
    rcases iha first middle ha with rfl | hfront
    · exact ihb _ last hb
    · rcases ihb middle last hb with rfl | hback
      · exact .inr hfront
      · exact .inr ⟨Nat.lt_trans hfront.1 hback.1, hback.2⟩
  | alternatives a b iha ihb =>
    rintro first last (ha | hb)
    · exact iha first last ha
    · exact ihb first last hb
  | repeated body least most ih =>
    rintro first last ⟨more, _, hmoves⟩
    exact Moves.progresses ih _ first last hmoves

/-- The places that an expression advances to are those that its matches lead to. -/
theorem steps_advance (expression : Expression) :
    Places.Steps (expression.advance text) (expression.Matches text) := by
  induction expression with
  | empty =>
    intro places last
    simp [advance, Matches]
  | one set =>
    intro places last
    simp [advance, Matches]
  | anchor condition =>
    intro places last
    simp only [advance, List.mem_filter, Matches]
    constructor
    · rintro ⟨hlast, hholds⟩
      exact ⟨last, hlast, rfl, hholds⟩
    · rintro ⟨first, hfirst, rfl, hholds⟩
      exact ⟨hfirst, hholds⟩
  | sequence a b iha ihb => exact ihb.comp iha
  | alternatives a b iha ihb =>
    intro places last
    rw [advance, Places.mem_append_without, iha, ihb, ← exists_or]
    simp only [Matches, and_or_left]
  | repeated body least most ih =>
    have hbegun := Places.steps_steps ih least
    intro places last
    cases most with
    | none =>
      have hclosure := (Places.steps_closure ih (progresses_matches body)).comp hbegun
      refine (hclosure places last).trans ?_
      simp [Matches, Moves.add_iff, exists_comm]
    | some most =>
      have hlimited := (Places.steps_stepsUpTo ih (most - least)).comp hbegun
      refine (hlimited places last).trans ?_
      simp only [Matches, Moves.add_iff, Option.mem_some_iff, forall_eq']
      constructor
      · rintro ⟨first, hfirst, middle, hfront, more, hmore, hback⟩
        exact ⟨first, hfirst, more, hmore, middle, hfront, hback⟩
      · rintro ⟨first, hfirst, more, hmore, middle, hfront, hback⟩
        exact ⟨first, hfirst, middle, hfront, more, hmore, hback⟩

/-- The first match begins where the text does if one leads from there to some place. -/
theorem find?_eq_some_zero_iff {expression : Expression} {text : String} :
    expression.find? text = some 0 ↔ ∃ last, expression.Matches text.toList.toArray 0 last := by
  have hreached (last : Nat) : last ∈ expression.advance text.toList.toArray [0] ↔
      expression.Matches text.toList.toArray 0 last := by
    simp [steps_advance expression [0] last]
  simp only [← hreached, ← List.isEmpty_eq_false_iff_exists_mem]
  simp [find?, List.find?_range_eq_some, matchesAt]

/-- Whether characters stand between two places of a text. -/
def Spans (text : Array Char) (first : Nat) (chars : List Char) (last : Nat) : Prop :=
  last = first + chars.length ∧ chars <+: text.toList.drop first

namespace Spans

variable {first last : Nat} {c : Char} {front back chars : List Char}

/-- No characters stand between a place and itself. -/
theorem nil_iff : Spans text first [] last ↔ last = first := by
  simp [Spans]

/-- One character stands between its place and the next one. -/
theorem singleton_iff :
    Spans text first [c] last ↔ text[first]? = some c ∧ last = first + 1 := by
  rw [Spans, and_comm, ← Array.getElem?_toList, ← List.head?_drop]
  cases text.toList.drop first with
  | nil => simp
  | cons d rest => simp [eq_comm]

/-- Some characters and then others stand on both sides of a place between them. -/
theorem append_iff : Spans text first (front ++ back) last ↔
    ∃ middle, Spans text first front middle ∧ Spans text middle back last := by
  constructor
  · rintro ⟨rfl, rest, hrest⟩
    refine ⟨first + front.length, ⟨rfl, back ++ rest, by rw [← hrest, List.append_assoc]⟩, ?_, ?_⟩
    · rw [List.length_append, Nat.add_assoc]
    · refine ⟨rest, ?_⟩
      rw [← List.drop_drop, ← hrest, List.append_assoc, List.drop_left]
  · rintro ⟨_, ⟨rfl, rest, hfront⟩, rfl, hback⟩
    refine ⟨by rw [List.length_append, Nat.add_assoc], ?_⟩
    rw [← List.drop_drop, ← hfront, List.drop_left] at hback
    rw [← hfront]
    exact (List.prefix_append_right_inj front).mpr hback

/-- From the start to the end of a text all of its characters stand. -/
theorem whole_iff : (∃ last, Spans text 0 chars last ∧ text.size ≤ last) ↔ chars = text.toList := by
  constructor
  · rintro ⟨_, ⟨rfl, hprefix⟩, hsize⟩
    rw [List.drop_zero] at hprefix
    exact hprefix.eq_of_length_le (by simpa using hsize)
  · rintro rfl
    exact ⟨text.size, ⟨by simp, by simp⟩, Nat.le_refl _⟩

end Spans

/-- Whether the matches of an expression are the stretches of text in a language. -/
def Describes (expression : Expression) (language : Language Char) : Prop :=
  ∀ text first last,
    expression.Matches text first last ↔ ∃ chars ∈ language, Spans text first chars last

/-- The language of the texts with a property. -/
def textsWith (holds : List Char → Prop) : Language Char := {chars | holds chars}

/-- The language of the single characters of a set. -/
def singles (set : CharSet) : Language Char :=
  textsWith fun chars => ∃ c, set.contains c = true ∧ chars = [c]

/-- A number of characters of a set. -/
theorem mem_singles_pow_iff {set : CharSet} {count : Nat} {chars : List Char} :
    chars ∈ singles set ^ count ↔ chars.length = count ∧ ∀ c ∈ chars, set.contains c = true := by
  induction count generalizing chars with
  | zero =>
    rw [pow_zero, Language.mem_one, List.length_eq_zero_iff, iff_self_and]
    rintro rfl
    simp
  | succ count ih =>
    rw [pow_succ', Language.mem_mul]
    constructor
    · rintro ⟨_, ⟨c, hc, rfl⟩, rest, hrest, rfl⟩
      obtain ⟨hlength, hall⟩ := ih.mp hrest
      exact ⟨by simp [hlength], by simpa [hc] using hall⟩
    · rintro ⟨hlength, hall⟩
      obtain ⟨c, rest, rfl⟩ := List.exists_cons_of_length_eq_add_one hlength
      have hrest := ih.mpr ⟨Nat.succ.inj hlength, fun c hc => hall c (List.mem_cons_of_mem _ hc)⟩
      exact ⟨[c], ⟨c, hall c List.mem_cons_self, rfl⟩, rest, hrest, rfl⟩

namespace Describes

variable {a b body : Expression} {l m : Language Char}

/-- The empty expression matches the empty text. -/
theorem nothing : empty.Describes 1 := by
  intro text first last
  simp [Matches, Language.mem_one, Spans.nil_iff]

/-- A set of characters matches each of them. -/
theorem char (set : CharSet) : (one set).Describes (singles set) := by
  intro text first last
  rw [Matches, Places.past?_eq_some_iff]
  constructor
  · rintro ⟨c, hahead, hc, hlast⟩
    exact ⟨[c], ⟨c, hc, rfl⟩, Spans.singleton_iff.mpr ⟨hahead, hlast⟩⟩
  · rintro ⟨_, ⟨c, hc, rfl⟩, hspans⟩
    obtain ⟨hahead, hlast⟩ := Spans.singleton_iff.mp hspans
    exact ⟨c, hahead, hc, hlast⟩

/-- Expressions in sequence match one text of each language in sequence. -/
theorem sequence (ha : a.Describes l) (hb : b.Describes m) :
    (sequence a b).Describes (l * m) := by
  intro text first last
  simp only [Matches, ha text, hb text, Language.mem_mul]
  constructor
  · rintro ⟨middle, ⟨front, hfront, hfirst⟩, back, hback, hlast⟩
    exact ⟨front ++ back, ⟨front, hfront, back, hback, rfl⟩,
      Spans.append_iff.mpr ⟨middle, hfirst, hlast⟩⟩
  · rintro ⟨_, ⟨front, hfront, back, hback, rfl⟩, hspans⟩
    obtain ⟨middle, hfirst, hlast⟩ := Spans.append_iff.mp hspans
    exact ⟨middle, ⟨front, hfront, hfirst⟩, back, hback, hlast⟩

/-- Alternatives match the texts of both languages. -/
theorem alternatives (ha : a.Describes l) (hb : b.Describes m) :
    (alternatives a b).Describes (l + m) := by
  intro text first last
  simp only [Matches, ha text, hb text, Language.mem_add, or_and_right, exists_or]

/-- Several matches one after the other take as many texts of the language. -/
theorem moves (hbody : body.Describes l) (count : Nat) (text : Array Char) (first last : Nat) :
    Moves (body.Matches text) count first last ↔
      ∃ chars ∈ l ^ count, Spans text first chars last := by
  induction count generalizing first with
  | zero =>
    simp only [pow_zero, Language.mem_one, exists_eq_left, Spans.nil_iff]
    refine ⟨fun hmoves => ?_, fun hlast => hlast ▸ .none⟩
    cases hmoves
    rfl
  | succ count ih =>
    simp only [pow_succ', Language.mem_mul]
    constructor
    · intro hmoves
      cases hmoves with
      | @next _ _ second _ hfirst hothers =>
        obtain ⟨front, hfront, hspans⟩ := (hbody text first second).mp hfirst
        obtain ⟨back, hback, hrest⟩ := (ih second).mp hothers
        exact ⟨front ++ back, ⟨front, hfront, back, hback, rfl⟩,
          Spans.append_iff.mpr ⟨second, hspans, hrest⟩⟩
    · rintro ⟨_, ⟨front, hfront, back, hback, rfl⟩, hspans⟩
      obtain ⟨second, hfirst, hrest⟩ := Spans.append_iff.mp hspans
      exact .next ((hbody text first second).mpr ⟨front, hfront, hfirst⟩)
        ((ih second).mpr ⟨back, hback, hrest⟩)

/-- A repeated expression matches several texts of the language, within its limits. -/
theorem repeated (hbody : body.Describes l) (least : Nat) (most : Option Nat) :
    (repeated body least most).Describes <| textsWith fun chars =>
      ∃ more, (∀ limit ∈ most, more ≤ limit - least) ∧ chars ∈ l ^ (least + more) := by
  intro text first last
  simp only [Matches, hbody.moves]
  constructor
  · rintro ⟨more, hmore, chars, hchars, hspans⟩
    exact ⟨chars, ⟨more, hmore, hchars⟩, hspans⟩
  · rintro ⟨chars, ⟨more, hmore, hchars⟩, hspans⟩
    exact ⟨more, hmore, chars, hchars, hspans⟩

/-- Languages with the same texts. -/
theorem congr (ha : a.Describes l) (hsame : ∀ chars, chars ∈ l ↔ chars ∈ m) : a.Describes m :=
  Language.ext hsame ▸ ha

end Describes

end Expression

end ControlProps
