import Mathlib.Logic.Basic

/-!
# Results that may be errors

What succeeds as a whole has succeeded in each of its steps, and what fails has failed in its first
step that does.
-/

namespace ControlProps

variable {ε δ α β : Type}

/-- Two steps succeed if the first one does and then the second one on what it gave. -/
theorem bind_eq_ok_iff {first : Except ε α} {second : α → Except ε β} {b : β} :
    first >>= second = .ok b ↔ ∃ a, first = .ok a ∧ second a = .ok b := by
  cases first with
  | error e => exact ⟨nofun, nofun⟩
  | ok a =>
    constructor
    · exact fun h => ⟨a, rfl, h⟩
    · rintro ⟨_, ⟨⟩, h⟩
      exact h

/-- Two steps fail if the first one does or, after it, the second one. -/
theorem bind_eq_error_iff {first : Except ε α} {second : α → Except ε β} {e : ε} :
    first >>= second = .error e ↔
      first = .error e ∨ ∃ a, first = .ok a ∧ second a = .error e := by
  cases first with
  | error e' =>
    refine ⟨fun h => .inl (congrArg Except.error (Except.error.inj h)), ?_⟩
    rintro (h | ⟨_, hok, _⟩)
    · exact congrArg Except.error (Except.error.inj h)
    · contradiction
  | ok a =>
    refine ⟨fun h => .inr ⟨a, rfl, h⟩, ?_⟩
    rintro (herror | ⟨_, ⟨⟩, h⟩)
    · contradiction
    · exact h

/-- What is made of a result succeeds if the result does. -/
theorem map_eq_ok_iff {result : Except ε α} {f : α → β} {b : β} :
    result.map f = .ok b ↔ ∃ a, result = .ok a ∧ f a = b := by
  cases result with
  | error e => exact ⟨nofun, nofun⟩
  | ok a => simp [Except.map]

/-- What is made of an optional result is something only if the result is. -/
theorem optionMap_eq_ok_some_iff {result : Except ε (Option α)} {f : α → β} {b : β} :
    result.map (·.map f) = .ok (some b) ↔ ∃ a, result = .ok (some a) ∧ f a = b := by
  rw [map_eq_ok_iff]
  constructor
  · rintro ⟨found, hfound, hsome⟩
    obtain ⟨a, rfl, ha⟩ := Option.map_eq_some_iff.mp hsome
    exact ⟨a, hfound, ha⟩
  · rintro ⟨a, hfound, rfl⟩
    exact ⟨some a, hfound, rfl⟩

/-- What is made of an optional result is nothing only if the result is. -/
theorem optionMap_eq_ok_none_iff {result : Except ε (Option α)} {f : α → β} :
    result.map (·.map f) = .ok none ↔ result = .ok none := by
  simp [map_eq_ok_iff]

/-- Rewording errors makes no difference to what succeeds. -/
theorem mapError_eq_ok_iff {result : Except ε α} {f : ε → δ} {a : α} :
    result.mapError f = .ok a ↔ result = .ok a := by
  cases result with
  | error e => exact ⟨nofun, nofun⟩
  | ok b => exact ⟨fun h => congrArg Except.ok (Except.ok.inj h),
      fun h => congrArg Except.ok (Except.ok.inj h)⟩

/-- A reworded error is what the wording makes of an error. -/
theorem mapError_eq_error_iff {result : Except ε α} {f : ε → δ} {d : δ} :
    result.mapError f = .error d ↔ ∃ e, result = .error e ∧ f e = d := by
  cases result with
  | error e =>
    refine ⟨fun h => ⟨e, rfl, Except.error.inj h⟩, ?_⟩
    rintro ⟨_, ⟨⟩, rfl⟩
    rfl
  | ok a => exact ⟨nofun, nofun⟩

/-- The errors of steps one after the other are reworded in each step. -/
theorem mapError_bind {first : Except ε α} {second : α → Except ε β} {f : ε → δ} :
    (first >>= second).mapError f = first.mapError f >>= fun a => (second a).mapError f := by
  cases first <;> rfl

/-- A step that is only taken where nothing forbids it. -/
theorem ite_throw_eq_ok_iff {forbidden : Prop} [Decidable forbidden] {e : ε}
    {next : Unit → Except ε α} {a : α} :
    (if forbidden then (throw e : Except ε Unit) >>= next else next ()) = .ok a ↔
      ¬forbidden ∧ next () = .ok a := by
  by_cases h : forbidden
  · rw [if_pos h]
    exact ⟨nofun, fun hnot => absurd h hnot.1⟩
  · rw [if_neg h]
    exact ⟨fun hnext => ⟨h, hnext⟩, fun hnot => hnot.2⟩

/-- Whether a result is no error can be evaluated. -/
theorem toBool_eq_true_iff {result : Except ε α} :
    result.toBool = true ↔ ∃ a, result = .ok a := by
  cases result with
  | error e => simp [Except.toBool]
  | ok a => simp [Except.toBool]

/-- Of a result the value can be evaluated, also where errors cannot be compared. -/
theorem toOption_eq_some_iff {result : Except ε α} {a : α} :
    result.toOption = some a ↔ result = .ok a := by
  cases result with
  | error e => exact ⟨nofun, nofun⟩
  | ok b => simp [Except.toOption]

/-- The last step of several. -/
theorem pure_eq_ok_iff {a b : α} : (pure a : Except ε α) = .ok b ↔ a = b :=
  ⟨Except.ok.inj, congrArg Except.ok⟩

/-- What the last step makes of a result, where it cannot fail itself. -/
theorem bind_pure_eq_ok_iff {first : Except ε α} {f : α → β} {b : β} :
    (first >>= fun a => pure (f a)) = .ok b ↔ ∃ a, first = .ok a ∧ f a = b :=
  bind_eq_ok_iff.trans (exists_congr fun _ => and_congr_right fun _ => pure_eq_ok_iff)

/-- The first failure in a list is its first member, or that comes through and it is further on. -/
theorem exists_split_cons_iff {passes fails : α → Prop} {first : α} {rest : List α} :
    (∃ before a after, first :: rest = before ++ a :: after ∧ (∀ b ∈ before, passes b) ∧ fails a) ↔
      fails first ∨ passes first ∧
        ∃ before a after, rest = before ++ a :: after ∧ (∀ b ∈ before, passes b) ∧ fails a := by
  constructor
  · rintro ⟨before, a, after, hsplit, hbefore, ha⟩
    cases before with
    | nil =>
      obtain ⟨rfl, rfl⟩ := List.cons.inj hsplit
      exact .inl ha
    | cons b before =>
      obtain ⟨rfl, hrest⟩ := List.cons.inj hsplit
      obtain ⟨hfirst, hbefore⟩ := List.forall_mem_cons.mp hbefore
      exact .inr ⟨hfirst, before, a, after, hrest, hbefore, ha⟩
  · rintro (ha | ⟨hfirst, before, a, after, rfl, hbefore, ha⟩)
    · exact ⟨[], first, rest, rfl, nofun, ha⟩
    · exact ⟨first :: before, a, after, rfl, List.forall_mem_cons.mpr ⟨hfirst, hbefore⟩, ha⟩

end ControlProps
