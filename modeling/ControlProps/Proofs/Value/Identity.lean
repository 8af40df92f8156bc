import ControlProps.Proofs.Value.Parts

/-!
# The same value

Two values are the same if they have the same shape, with the same keys in the same order and the
same representations of numbers. This can be decided.
-/

namespace ControlProps.Value

mutual

/-- Whether two values are the same. -/
def same : Value → Value → Bool
  | null, null => true
  | bool a, bool b => a = b
  | int a, int b => a = b
  | float a, float b => a = b
  | string a, string b => a = b
  | array as, array bs => sameItems as bs
  | object as, object bs => sameEntries as bs
  | _, _ => false

/-- Whether two lists have the same items. -/
def sameItems : List Value → List Value → Bool
  | [], [] => true
  | a :: as, b :: bs => a.same b && sameItems as bs
  | _, _ => false

/-- Whether two tables have the same entries. -/
def sameEntries : List (String × Value) → List (String × Value) → Bool
  | [], [] => true
  | (key, a) :: as, (key', b) :: bs => decide (key = key') && a.same b && sameEntries as bs
  | _, _ => false

end

/-- Lists have the same items if that is so for each item. -/
theorem sameItems_iff {as bs : List Value}
    (hitems : ∀ a ∈ as, ∀ b, a.same b = true ↔ a = b) : sameItems as bs = true ↔ as = bs := by
  induction as generalizing bs with
  | nil => cases bs <;> simp [sameItems]
  | cons a as ih =>
    have hrest := fun b hb => hitems b (List.mem_cons_of_mem a hb)
    cases bs with
    | nil => simp [sameItems]
    | cons b bs => rw [sameItems, Bool.and_eq_true, hitems a (by simp), ih hrest, List.cons.injEq]

/-- Tables have the same entries if that is so for each entry. -/
theorem sameEntries_iff {as bs : List (String × Value)}
    (hentries : ∀ a ∈ as, ∀ b, a.2.same b = true ↔ a.2 = b) :
    sameEntries as bs = true ↔ as = bs := by
  induction as generalizing bs with
  | nil => cases bs <;> simp [sameEntries]
  | cons a as ih =>
    obtain ⟨key, a⟩ := a
    have hrest := fun b hb => hentries b (List.mem_cons_of_mem (key, a) hb)
    cases bs with
    | nil => simp [sameEntries]
    | cons b bs =>
      obtain ⟨key', b⟩ := b
      have ha := hentries (key, a) (by simp) b
      rw [sameEntries, Bool.and_eq_true, Bool.and_eq_true, ha, ih hrest, decide_eq_true_eq,
        List.cons.injEq, Prod.mk.injEq]

/-- The test finds out whether two values are equal. -/
theorem same_iff {a b : Value} : a.same b = true ↔ a = b := by
  induction a generalizing b with
  | array items ih =>
    cases b with
    | array others => rw [same, sameItems_iff fun item hitem _ => ih item hitem, array.injEq]
    | _ => simp [same]
  | object entries ih =>
    cases b with
    | object others =>
      rw [same, sameEntries_iff fun entry hentry _ => ih entry hentry, object.injEq]
    | _ => simp [same]
  | _ => cases b <;> simp [same]

instance : DecidableEq Value := fun _ _ => decidable_of_iff _ same_iff

end ControlProps.Value
