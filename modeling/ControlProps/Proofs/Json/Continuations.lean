import ControlProps.Proofs.Binary64.Text
import ControlProps.Proofs.Json.Structure
import Mathlib.Data.List.TakeWhile

/-!
# What stands behind a value

Of what stands behind it, a reader sees at most the first character, which ends a number; behind a
closing bracket it sees nothing. So an array or object that begins a text is read alike in every
text that it begins.
-/

namespace ControlProps

variable {α β : Type} {cursor mid behind : Cursor} {used usedFirst usedSecond : List Char}
  {free freeFirst freeSecond : Prop} {read first second result : Cursor → α}

/--
Between two places a reader takes the given characters off the text and gives the same result
whatever follows them; unless it is free, what follows has to begin as it does here.
-/
def Takes (free : Prop) (read result : Cursor → α) (cursor behind : Cursor)
    (used : List Char) : Prop :=
  cursor.rest = used ++ behind.rest ∧
    ∀ back, (free ∨ back.head? = behind.rest.head?) →
      read ⟨used ++ back, cursor.position⟩ = result ⟨back, behind.position⟩

namespace Takes

/-- A step that does not depend on what follows. -/
theorem of_step (front : List Char) {rest : List Char} {here there : Position}
    (hstep : ∀ more, read ⟨front ++ more, here⟩ = result ⟨more, there⟩) :
    Takes True read result ⟨front ++ rest, here⟩ ⟨rest, there⟩ front :=
  ⟨rfl, fun back _ => hstep back⟩

/-- The next character is passed. -/
theorem tail (next : Cursor → α) {c : Char} (hhead : cursor.rest.head? = some c) :
    Takes True (fun here => next here.tail) next cursor cursor.tail [c] := by
  obtain ⟨text, position⟩ := cursor
  obtain ⟨rest, rfl⟩ := List.head?_eq_some_iff.mp hhead
  exact .of_step [c] fun _ => rfl

/-- Two steps in a row; the first one may depend on what the second one takes. -/
theorem trans (hfirst : Takes freeFirst first second cursor mid usedFirst)
    (hsecond : Takes freeSecond second result mid behind usedSecond)
    (hfree : free → freeSecond ∧ (freeFirst ∨ usedSecond ≠ [])) :
    Takes free first result cursor behind (usedFirst ++ usedSecond) := by
  obtain ⟨hmid, hfirst⟩ := hfirst
  obtain ⟨hbehind, hsecond⟩ := hsecond
  refine ⟨by rw [hmid, hbehind, List.append_assoc], fun back hback => ?_⟩
  have hhead : freeFirst ∨ (usedSecond ++ back).head? = mid.rest.head? := by
    rw [hbehind]
    cases usedSecond with
    | nil => exact hback.imp_left fun h => (hfree h).2.resolve_right fun hne => hne rfl
    | cons c rest => exact .inr rfl
  rw [List.append_assoc, hfirst _ hhead, hsecond back (hback.imp_left fun h => (hfree h).1)]

/-- Two steps in a row that are both free. -/
theorem trans_free (hfirst : Takes True first second cursor mid usedFirst)
    (hsecond : Takes free second result mid behind usedSecond) :
    Takes free first result cursor behind (usedFirst ++ usedSecond) :=
  hfirst.trans hsecond fun hfree => ⟨hfree, .inl trivial⟩

/-- Whatever follows, the next character is the same. -/
theorem head?_append (htakes : Takes free read result cursor behind used) (hused : free → used ≠ [])
    {back : List Char} (hback : free ∨ back.head? = behind.rest.head?) :
    (used ++ back).head? = cursor.rest.head? := by
  rw [htakes.1]
  cases used with
  | nil => exact hback.resolve_left fun hfree => hused hfree rfl
  | cons c rest => rfl

/-- A reader whose next step is chosen by the next character. -/
theorem of_head (hnext : Takes free second result cursor behind used) (hused : free → used ≠ [])
    (hsame : ∀ here, here.rest.head? = cursor.rest.head? → first here = second here) :
    Takes free first result cursor behind used := by
  refine ⟨hnext.1, fun back hback => ?_⟩
  rw [← hnext.2 back hback]
  exact hsame _ (hnext.head?_append hused hback)

/-- What is made of the result depends on no more. -/
theorem map (htakes : Takes free read result cursor behind used) (f : α → β) :
    Takes free (fun here => f (read here)) (fun here => f (result here)) cursor behind used :=
  ⟨htakes.1, fun back hback => congrArg f (htakes.2 back hback)⟩

end Takes

/-- The characters of a class end where a text goes on with another one. -/
theorem takes_while (p : Char → Bool) (next : List Char → Cursor → α) (cursor : Cursor) :
    let run (here : Cursor) := here.rest.takeWhile p
    let past (here : Cursor) : Cursor :=
      ⟨here.rest.dropWhile p, here.position.afterAll (run here)⟩
    Takes False (fun here => next (run here) (past here)) (next (run cursor)) cursor (past cursor)
      (run cursor) := by
  refine ⟨List.takeWhile_append_dropWhile.symm, fun back hback => ?_⟩
  have hend : ∀ c ∈ back.head?, p c = false := by
    intro c hc
    have hnot := List.head?_dropWhile_not p cursor.rest
    rw [← hback.resolve_left not_false, Option.mem_def.mp hc] at hnot
    simpa using hnot
  obtain ⟨htaken, hdropped⟩ := takeWhile_dropWhile_append (fun c => List.mem_takeWhile_imp) hend
  dsimp only
  rw [htaken, hdropped]

/-- Digits end where a text goes on with another character. -/
theorem takes_digits (next : List Char × Cursor → α) (cursor : Cursor) :
    Takes False (fun here => next here.digits) (fun past => next (cursor.digits.1, past)) cursor
      cursor.digits.2 cursor.digits.1 :=
  takes_while Char.isDigit (fun run past => next (run, past)) cursor

/-- A word ends with its last letter. -/
theorem takes_word {letters : List Char} (hread : cursor.word letters = .ok behind) :
    Takes True (Cursor.word letters) .ok cursor behind letters := by
  obtain ⟨text, position⟩ := cursor
  induction letters generalizing text position with
  | nil =>
    obtain rfl := Except.ok.inj hread
    exact .of_step [] fun _ => rfl
  | cons letter letters ih =>
    rw [Cursor.word] at hread
    cases text with
    | nil => contradiction
    | cons c rest =>
      dsimp only at hread
      split at hread
      · rename_i hletter
        subst hletter
        exact .trans_free (.of_step [c] fun more => by simp [Cursor.word]) (ih _ _ hread)
      · contradiction

/-- A string ends with its closing quote. -/
theorem takes_readString {chars : List Char} {value : String}
    (hread : readString cursor.rest cursor.position chars = .ok (value, behind)) :
    ∃ used, Takes True (fun here => readString here.rest here.position chars)
      (fun behind => .ok (value, behind)) cursor behind used := by
  obtain ⟨text, position⟩ := cursor
  dsimp only at hread
  -- each reading of a character is a step; only the closing quote ends them
  fun_induction readString text position chars with
  | case2 position read rest =>
    obtain ⟨rfl, rfl⟩ := Prod.mk.inj (Except.ok.inj hread)
    exact ⟨['"'], .of_step ['"'] fun _ => rfl⟩
  | case7 position read a b c d here leading hleading place hnot his e f g h rest next trailing
      htrailing stop htrails ih =>
    obtain ⟨used, hused⟩ := ih hread
    have hstep (more : List Char) : readString
        (['\\', 'u', a, b, c, d, '\\', 'u', e, f, g, h] ++ more) position read =
        readString more stop (characterOfUnits leading trailing :: read) := by
      simp [readString, hleading, hnot, his, htrailing, htrails]
      rfl
    exact ⟨_, .trans_free
      (.of_step ['\\', 'u', a, b, c, d, '\\', 'u', e, f, g, h] hstep) hused⟩
  | case14 position read a b c d rest here unit hunit place hnot his ih =>
    obtain ⟨used, hused⟩ := ih hread
    have hstep (more : List Char) : readString (['\\', 'u', a, b, c, d] ++ more) position read =
        readString more place (Char.ofNat unit :: read) := by
      simp [readString, hunit, hnot, his]
      rfl
    exact ⟨_, .trans_free (.of_step ['\\', 'u', a, b, c, d] hstep) hused⟩
  | case16 position read c rest hdigits hu meant hmeant ih =>
    obtain ⟨used, hused⟩ := ih hread
    have hstep (more : List Char) : readString (['\\', c] ++ more) position read =
        readString more ((position.after '\\').after c) (meant :: read) := by
      rw [List.cons_append, List.cons_append, List.nil_append, readString, hmeant]
      · exact fun _ _ _ _ _ hc => (hu hc).elim
      · exact hu
    exact ⟨_, .trans_free (.of_step ['\\', c] hstep) hused⟩
  | case19 position read c rest hquote hend _ _ hescape hplain ih =>
    obtain ⟨used, hused⟩ := ih hread
    have hslash : c ≠ '\\' := by
      rintro rfl
      cases rest with
      | nil => exact hend rfl rfl
      | cons d rest => exact hescape d rest rfl rfl
    have hstep (more : List Char) : readString ([c] ++ more) position read =
        readString more (position.after c) (c :: read) := by
      rw [List.cons_append, List.nil_append, readString, if_neg hplain]
      all_goals simp_all
    exact ⟨_, .trans_free (.of_step [c] hstep) hused⟩
  | _ => contradiction

section Numbers

variable {negative : Bool} {whole fraction : List Char} {value : Atom}

/-- A float is read where its magnitude is finite, and nothing is taken any more. -/
theorem finishFloat_eq_ok_iff {decimal : Decimal} {overflow : Position} :
    finishFloat negative decimal cursor overflow = .ok (value, behind) ↔
      ∃ rank, decimal.scaledRank? = some rank ∧
        value = .float (Binary64.ofRank negative rank) ∧ behind = cursor := by
  unfold finishFloat
  split
  · rename_i hrank
    simp [hrank, eq_comm]
  · rename_i hnone
    simp [hnone]

/-- The end of a float takes nothing. -/
theorem takes_finishFloat {decimal : Decimal}
    (hread : finishFloat negative decimal cursor cursor.position = .ok (value, behind)) :
    Takes False (fun here => finishFloat negative decimal here here.position)
      (fun behind => .ok (value, behind)) cursor behind [] := by
  obtain ⟨rank, hrank, rfl, rfl⟩ := finishFloat_eq_ok_iff.mp hread
  exact ⟨rfl, fun back _ => finishFloat_eq_ok_iff.mpr ⟨rank, hrank, rfl, rfl⟩⟩

/-- The end of an integer takes nothing. -/
theorem takes_atom {found : Atom}
    (hread : (.ok (found, cursor) : Except FaultAt (Atom × Cursor)) = .ok (value, behind)) :
    Takes False (fun here => (.ok (found, here) : Except FaultAt (Atom × Cursor)))
      (fun behind => .ok (value, behind)) cursor behind [] := by
  obtain ⟨rfl, rfl⟩ := Prod.mk.inj (Except.ok.inj hread)
  exact ⟨rfl, fun back _ => rfl⟩

/-- The end of a number with neither point nor exponent. -/
def finishWhole (negative : Bool) (whole : List Char) (cursor : Cursor) :
    Except FaultAt (Atom × Cursor) :=
  let magnitude := digitsValue whole
  if negative then
    let value := -(magnitude : Int)
    if value < 0 ∧ Int64.minValue.toInt ≤ value then .ok (.int value, cursor)
    else finishFloat true (Decimal.ofLeadingDigits whole [] 0) cursor cursor.position
  else if magnitude < UInt64.size then .ok (.int magnitude, cursor)
  else finishFloat false (Decimal.ofLeadingDigits whole [] 0) cursor cursor.position

/-- The end of such a number takes nothing. -/
theorem takes_finishWhole (hread : finishWhole negative whole cursor = .ok (value, behind)) :
    Takes False (finishWhole negative whole) (fun behind => .ok (value, behind)) cursor behind
      [] := by
  unfold finishWhole at hread ⊢
  cases negative with
  | true =>
    by_cases hbounds : -(digitsValue whole : Int) < 0 ∧
        Int64.minValue.toInt ≤ -(digitsValue whole : Int)
    · simp only [if_pos hbounds] at hread ⊢
      exact takes_atom hread
    · simp only [reduceIte, if_neg hbounds] at hread ⊢
      exact takes_finishFloat hread
  | false =>
    by_cases hbound : digitsValue whole < UInt64.size
    · simp only [if_pos hbound] at hread ⊢
      exact takes_atom hread
    · simp only [Bool.false_eq_true, reduceIte, if_neg hbound] at hread ⊢
      exact takes_finishFloat hread

/-- An exponent behind its sign, if it has one. -/
def readExponentDigits (negative : Bool) (whole fraction : List Char) (signed : Option Bool)
    (cursor : Cursor) : Except FaultAt (Atom × Cursor) :=
  let (digits, behind) := cursor.digits
  if digits.isEmpty then
    if cursor.rest.isEmpty then .error (cursor.faultAtNext .valueUnfinished)
    else .error (cursor.faultAtNext .invalidNumber)
  else
    let magnitude := digitsValue digits
    let exponent : Int := if signed = some true then -(magnitude : Int) else magnitude
    let overflow := cursor.position.afterAll (digitsUpToLimit digits)
    finishFloat negative (Decimal.ofLeadingDigits whole fraction exponent) behind overflow

/-- Of an exponent, the next character may be the sign. -/
theorem readExponent_eq : readExponent negative whole fraction cursor =
    match cursor.rest.head? with
    | some '-' => readExponentDigits negative whole fraction (some true) cursor.tail
    | some '+' => readExponentDigits negative whole fraction (some false) cursor.tail
    | _ => readExponentDigits negative whole fraction none cursor := by
  obtain ⟨text, position⟩ := cursor
  cases text with
  | nil => rfl
  | cons c rest =>
    by_cases hminus : c = '-'
    · subst hminus
      rfl
    by_cases hplus : c = '+'
    · subst hplus
      rfl
    simp [readExponent, readExponentDigits, hminus, hplus]

/-- An exponent ends with its digits. -/
theorem takes_readExponentDigits {signed : Option Bool}
    (hread : readExponentDigits negative whole fraction signed cursor = .ok (value, behind)) :
    Takes False (readExponentDigits negative whole fraction signed)
      (fun behind => .ok (value, behind)) cursor behind cursor.digits.1 := by
  have hdigits := takes_digits id cursor
  unfold readExponentDigits at hread
  dsimp only at hread
  split at hread
  · split at hread <;> contradiction
  · rename_i hsome
    obtain ⟨rank, hrank, rfl, rfl⟩ := finishFloat_eq_ok_iff.mp hread
    refine ⟨hdigits.1, fun back hback => ?_⟩
    have hsame : Cursor.digits ⟨cursor.digits.1 ++ back, cursor.position⟩ =
        (cursor.digits.1, ⟨back, cursor.digits.2.position⟩) := hdigits.2 back hback
    simp only [readExponentDigits, hsame]
    rw [if_neg hsome, finishFloat_eq_ok_iff]
    exact ⟨rank, hrank, rfl, rfl⟩

/-- An exponent with its sign ends with its digits. -/
theorem takes_readExponent
    (hread : readExponent negative whole fraction cursor = .ok (value, behind)) :
    ∃ used, Takes False (readExponent negative whole fraction) (fun behind => .ok (value, behind))
      cursor behind used := by
  rw [readExponent_eq] at hread
  split at hread
  · rename_i hhead
    refine ⟨_, .of_head (.trans_free (.tail _ hhead) (takes_readExponentDigits hread)) nofun
      fun here hsame => ?_⟩
    rw [readExponent_eq, hsame, hhead]
    rfl
  · rename_i hhead
    refine ⟨_, .of_head (.trans_free (.tail _ hhead) (takes_readExponentDigits hread)) nofun
      fun here hsame => ?_⟩
    rw [readExponent_eq, hsame, hhead]
    rfl
  · rename_i hminus hplus
    refine ⟨_, .of_head (takes_readExponentDigits hread) nofun fun here hsame => ?_⟩
    rw [readExponent_eq, hsame]
    split
    · exact absurd ‹_› hminus
    · exact absurd ‹_› hplus
    · rfl

/-- What may stand behind the digits of a number: an exponent, or else the number ends. -/
def readMark (negative : Bool) (whole fraction : List Char)
    (finish : Cursor → Except FaultAt (Atom × Cursor)) (cursor : Cursor) :
    Except FaultAt (Atom × Cursor) :=
  match cursor.rest with
  | 'e' :: _ | 'E' :: _ => readExponent negative whole fraction cursor.tail
  | _ => finish cursor

/-- Whether there is an exponent is said by the next character. -/
theorem readMark_eq {finish : Cursor → Except FaultAt (Atom × Cursor)} :
    readMark negative whole fraction finish cursor =
      match cursor.rest.head? with
      | some 'e' | some 'E' => readExponent negative whole fraction cursor.tail
      | _ => finish cursor := by
  obtain ⟨text, position⟩ := cursor
  cases text with
  | nil => rfl
  | cons c rest =>
    by_cases hlower : c = 'e'
    · subst hlower
      rfl
    by_cases hupper : c = 'E'
    · subst hupper
      rfl
    simp [readMark, hlower, hupper]

/-- A number ends behind its exponent, or where its digits end. -/
theorem takes_readMark {finish : Cursor → Except FaultAt (Atom × Cursor)}
    (hfinish : ∀ here, finish here = .ok (value, behind) →
      Takes False finish (fun behind => .ok (value, behind)) here behind [])
    (hread : readMark negative whole fraction finish cursor = .ok (value, behind)) :
    ∃ used, Takes False (readMark negative whole fraction finish)
      (fun behind => .ok (value, behind)) cursor behind used := by
  rw [readMark_eq] at hread
  split at hread
  · rename_i hhead
    obtain ⟨used, hused⟩ := takes_readExponent hread
    refine ⟨_, .of_head (.trans_free (.tail _ hhead) hused) nofun fun here hsame => ?_⟩
    rw [readMark_eq, hsame, hhead]
    rfl
  · rename_i hhead
    obtain ⟨used, hused⟩ := takes_readExponent hread
    refine ⟨_, .of_head (.trans_free (.tail _ hhead) hused) nofun fun here hsame => ?_⟩
    rw [readMark_eq, hsame, hhead]
    rfl
  · rename_i hlower hupper
    refine ⟨_, .of_head (hfinish _ hread) nofun fun here hsame => ?_⟩
    rw [readMark_eq, hsame]
    split
    · exact absurd ‹_› hlower
    · exact absurd ‹_› hupper
    · rfl

/-- The digits behind a point and what may stand behind them. -/
def readFractionDigits (negative : Bool) (whole : List Char) :
    List Char × Cursor → Except FaultAt (Atom × Cursor) := fun (fraction, behind) =>
  if fraction.isEmpty then
    if behind.rest.isEmpty then .error (behind.faultAtNext .valueUnfinished)
    else .error (behind.faultAtNext .invalidNumber)
  else readMark negative whole fraction (fun behind =>
    finishFloat negative (Decimal.ofLeadingDigits whole fraction 0) behind behind.position) behind

/-- Whether there is a fraction is said by the next character. -/
theorem readFraction_eq : readFraction negative whole cursor =
    match cursor.rest.head? with
    | some '.' => readFractionDigits negative whole cursor.tail.digits
    | _ => readMark negative whole [] (finishWhole negative whole) cursor := by
  obtain ⟨text, position⟩ := cursor
  cases text with
  | nil => rfl
  | cons c rest =>
    by_cases hpoint : c = '.'
    · subst hpoint
      rfl
    by_cases hlower : c = 'e'
    · subst hlower
      rfl
    by_cases hupper : c = 'E'
    · subst hupper
      rfl
    simp [readFraction, readMark, finishWhole, hpoint, hlower, hupper]

/-- A number ends behind its fraction, its exponent or its digits. -/
theorem takes_readFraction (hread : readFraction negative whole cursor = .ok (value, behind)) :
    ∃ used, Takes False (readFraction negative whole) (fun behind => .ok (value, behind))
      cursor behind used := by
  rw [readFraction_eq] at hread
  split at hread
  · rename_i hhead
    have hdigits := takes_digits (readFractionDigits negative whole) cursor.tail
    simp only [readFractionDigits] at hread
    split at hread
    · split at hread <;> contradiction
    · rename_i hsome
      obtain ⟨used, hused⟩ := takes_readMark (fun here => takes_finishFloat) hread
      simp only [readFractionDigits, if_neg hsome] at hdigits
      have hbehind : Takes False _ _ _ _ _ := hdigits.trans hused nofun
      refine ⟨_, .of_head (.trans_free (.tail _ hhead) hbehind) nofun fun here hsame => ?_⟩
      rw [readFraction_eq, hsame, hhead]
      rfl
  · rename_i hpoint
    obtain ⟨used, hused⟩ := takes_readMark (fun here => takes_finishWhole) hread
    refine ⟨used, hused.of_head False.elim fun here hsame => ?_⟩
    rw [readFraction_eq, hsame]
    split
    · exact absurd ‹_› hpoint
    · rfl

/-- A number has digits, and it ends where no more of it follows. -/
theorem takes_readNumber (hread : readNumber negative cursor = .ok (value, behind)) :
    ∃ used, used ≠ [] ∧ Takes False (readNumber negative) (fun behind => .ok (value, behind))
      cursor behind used := by
  unfold readNumber at hread
  dsimp only at hread
  split at hread
  · split at hread <;> contradiction
  · contradiction
  · rename_i hsome hzero
    obtain ⟨used, hused⟩ := takes_readFraction hread
    have hdigits := takes_digits id cursor
    refine ⟨cursor.digits.1 ++ used, List.append_ne_nil_of_left_ne_nil hsome _,
      by rw [hdigits.1, hused.1, List.append_assoc], fun back hback => ?_⟩
    have hsame : Cursor.digits ⟨cursor.digits.1 ++ (used ++ back), cursor.position⟩ =
        (cursor.digits.1, ⟨used ++ back, cursor.digits.2.position⟩) :=
      hdigits.2 _ (.inr (hused.head?_append False.elim hback))
    rw [List.append_assoc, ← hused.2 back hback]
    simp only [readNumber, hsame]

/-- An atom ends where no more of it follows. -/
theorem takes_readAtom (hread : readAtom cursor = .ok (value, behind)) :
    ∃ used, used ≠ [] ∧ Takes False readAtom (fun behind => .ok (value, behind)) cursor behind
      used := by
  obtain ⟨text, position⟩ := cursor
  have hword {c : Char} {letters rest : List Char} {found : Atom}
      (hstep : ∀ more, readAtom ⟨[c] ++ more, position⟩ =
        ((⟨more, position.after c⟩ : Cursor).word letters).map (found, ·))
      (hread : ((⟨rest, position.after c⟩ : Cursor).word letters).map (found, ·) =
        .ok (value, behind)) :
      ∃ used, used ≠ [] ∧ Takes False readAtom (fun behind => .ok (value, behind))
        ⟨[c] ++ rest, position⟩ behind used := by
    obtain ⟨past, hletters, hvalue⟩ := map_eq_ok_iff.mp hread
    obtain ⟨rfl, rfl⟩ := Prod.mk.inj hvalue
    have hmap := (takes_word hletters).map fun result => result.map (found, ·)
    exact ⟨_, List.cons_ne_nil _ _, (Takes.of_step [c] hstep).trans hmap nofun⟩
  unfold readAtom at hread
  split at hread
  · contradiction
  · rename_i rest heq
    obtain rfl : text = '"' :: rest := heq
    obtain ⟨⟨read, past⟩, hstring, hvalue⟩ := map_eq_ok_iff.mp hread
    obtain ⟨rfl, rfl⟩ := Prod.mk.inj hvalue
    obtain ⟨used, hused⟩ := @takes_readString ⟨rest, position.after '"'⟩ _ _ _ hstring
    have hmap := hused.map (Except.map (Prod.map Atom.string id))
    exact ⟨_, List.cons_ne_nil _ _, (Takes.of_step ['"'] fun _ => rfl).trans hmap nofun⟩
  · rename_i rest heq
    obtain rfl : text = 'n' :: rest := heq
    exact hword (fun _ => rfl) hread
  · rename_i rest heq
    obtain rfl : text = 't' :: rest := heq
    exact hword (fun _ => rfl) hread
  · rename_i rest heq
    obtain rfl : text = 'f' :: rest := heq
    exact hword (fun _ => rfl) hread
  · rename_i rest heq
    obtain rfl : text = '-' :: rest := heq
    obtain ⟨used, _, hused⟩ := takes_readNumber hread
    exact ⟨_, List.cons_ne_nil _ _, (Takes.of_step ['-'] fun _ => rfl).trans hused nofun⟩
  · rename_i c rest _ _ _ _ _ heq
    obtain rfl : text = c :: rest := heq
    split at hread
    · obtain ⟨used, hsome, hused⟩ := takes_readNumber hread
      refine ⟨used, hsome, hused.of_head False.elim fun here hsame => ?_⟩
      obtain ⟨text, position⟩ := here
      obtain ⟨more, rfl⟩ := List.head?_eq_some_iff.mp hsame
      unfold readAtom
      split <;> simp_all
    · contradiction

end Numbers

end ControlProps
