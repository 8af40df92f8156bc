import ControlProps.Proofs.Binary64.Order
import ControlProps.Proofs.Pairing
import ControlProps.Proofs.Value.RoundTrip
import Mathlib.Data.List.Zip

/-!
# Values of one shape

Arrays are compared item by item and objects key by key, in any order, until leaves are reached.
Values that differ in nothing but the order of their keys are alike in this way, and equality by a
test of numbers is nothing else. Alike values are loosely equal to the same literals.
-/

namespace ControlProps.Value

/-- Neither an array nor an object. -/
def IsLeaf : Value → Prop
  | array _ | object _ => False
  | _ => True

/-- Values of one shape whose leaves are related. -/
inductive AlikeBy (related : Value → Value → Prop) : Value → Value → Prop
  | leaf {a b : Value} (ha : a.IsLeaf) (hb : b.IsLeaf) (hrelated : related a b) :
      AlikeBy related a b
  | array {as bs : List Value} (hlength : as.length = bs.length)
      (hitems : ∀ {a b}, (a, b) ∈ as.zip bs → AlikeBy related a b) :
      AlikeBy related (.array as) (.array bs)
  | object {as bs : List (String × Value)} (hkeys : (Entries.keys as).Perm (Entries.keys bs))
      (hentries : ∀ {key a b}, (key, a) ∈ as → (key, b) ∈ bs → AlikeBy related a b) :
      AlikeBy related (.object as) (.object bs)

/-- The same value, except that the keys of its objects, at any depth, may be in another order. -/
def Reordered : Value → Value → Prop := AlikeBy (· = ·)

/-- The same leaf, or numbers of either kind that are equal. -/
def SameLeaf (a b : Value) : Prop := a = b ∨ sameNearestNumber a b = true

/-- The same leaf that is no number, or numbers that a test finds to be the same. -/
def LeafBy (sameNumber : Value → Value → Bool) (a b : Value) : Prop :=
  (a.number? = none ∧ a = b) ∨ sameNumber a b = true

/-- Whether nothing but numbers pass a test. -/
structure IsOfNumbers (sameNumber : Value → Value → Bool) : Prop where
  left {a : Value} (ha : a.number? = none) (b : Value) : sameNumber a b = false
  right {b : Value} (hb : b.number? = none) (a : Value) : sameNumber a b = false

variable {related related' : Value → Value → Prop} {sameNumber : Value → Value → Bool} {a b : Value}

namespace AlikeBy

/-- Values are alike also by a relation that holds of more leaves of a kind that they have. -/
theorem mono_of_everywhere {holds : Value → Prop} (h : AlikeBy related a b)
    (ha : a.Everywhere holds) (hb : b.Everywhere holds)
    (himp : ∀ a b, holds a → holds b → related a b → related' a b) : AlikeBy related' a b := by
  induction h with
  | leaf hleaf hleaf' hrelated => exact .leaf hleaf hleaf' (himp _ _ ha.self hb.self hrelated)
  | array hlength _ ih =>
    refine .array hlength fun hpair => ?_
    obtain ⟨hmem, hmem'⟩ := List.of_mem_zip hpair
    exact ih hpair (ha.item hmem) (hb.item hmem')
  | object hkeys _ ih =>
    exact .object hkeys fun hmem hmem' => ih hmem hmem' (ha.entry hmem) (hb.entry hmem')

/-- Values are alike by every relation that holds of more leaves. -/
theorem mono (h : AlikeBy related a b) (himp : ∀ a b, related a b → related' a b) :
    AlikeBy related' a b :=
  h.mono_of_everywhere (fun _ _ _ => trivial) (fun _ _ _ => trivial) fun a b _ _ => himp a b

/-- A value is like itself if each of its parts is related to itself. -/
theorem refl (hrelated : a.Everywhere fun part => related part part) (hkeys : a.DistinctKeys) :
    AlikeBy related a a := by
  induction a with
  | array items ih =>
    have hpairs : List.Forall₂ (AlikeBy related) items items :=
      List.forall₂_same.mpr fun item hitem =>
        ih item hitem (hrelated.item hitem) (hkeys.item hitem)
    exact .array rfl (List.forall₂_zip hpairs)
  | object entries ih =>
    refine .object (.refl _) fun {key a b} ha hb => ?_
    have hsame : some a = some b :=
      (Entries.lookup_of_mem hkeys.self ha).symm.trans (Entries.lookup_of_mem hkeys.self hb)
    rw [← Option.some.inj hsame]
    exact ih (key, a) ha (hrelated.entry ha) (hkeys.entry ha)
  | _ => exact .leaf trivial trivial hrelated.self

/-- Likeness goes both ways if that of leaves does. -/
theorem symm (h : AlikeBy related a b) (hsymm : ∀ a b, related a b → related b a) :
    AlikeBy related b a := by
  induction h with
  | leaf ha hb hrelated => exact .leaf hb ha (hsymm _ _ hrelated)
  | array hlength _ ih =>
    refine .array hlength.symm fun {a b} hpair => ih ?_
    rw [← List.zip_swap, List.mem_map] at hpair
    obtain ⟨⟨b, a⟩, hpair, heq⟩ := hpair
    obtain ⟨rfl, rfl⟩ := Prod.mk.inj heq
    exact hpair
  | object hkeys _ ih => exact .object hkeys.symm fun ha hb => ih hb ha

/-- Only `null` is like `null` if no other leaf is related to it. -/
theorem isNull_eq (h : AlikeBy related a b) (hrelated : ∀ a b, related a b → a.isNull = b.isNull) :
    a.isNull = b.isNull := by
  cases h with
  | leaf _ _ hleaf => exact hrelated _ _ hleaf
  | array => rfl
  | object => rfl

end AlikeBy

/-- An object with its entries in another order. -/
theorem reordered_of_perm {entries others : List (String × Value)}
    (hkeys : (object entries).DistinctKeys) (horder : entries.Perm others) :
    (object entries).Reordered (object others) := by
  obtain ⟨hnodup, hentries⟩ := everywhere_object.mp hkeys
  refine .object (horder.map Prod.fst) fun {key a b} ha hb => ?_
  have hsame : some a = some b := (Entries.lookup_of_mem hnodup ha).symm.trans
    (Entries.lookup_of_mem hnodup (horder.mem_iff.mpr hb))
  rw [← Option.some.inj hsame]
  exact .refl (fun _ _ _ => rfl) (hentries (key, a) ha)

/-- A literal is loosely equal to a number if it is one and both are equal. -/
theorem looselyEquals_of_number? {x : Binary64} (ha : a.number? = some x) (literal : Value) :
    literal.looselyEquals a = sameNearestNumber literal a := by
  cases a with
  | int => cases literal <;> rfl
  | float => cases literal <;> rfl
  | _ => simp [number?] at ha

/-- Loosely equal numbers are loosely equal to the same literals. -/
theorem looselyEquals_eq_of_sameNearestNumber (h : sameNearestNumber a b = true)
    (literal : Value) : literal.looselyEquals a = literal.looselyEquals b := by
  unfold sameNearestNumber at h
  split at h
  · rename_i x y hx hy
    rw [looselyEquals_of_number? hx, looselyEquals_of_number? hy, sameNearestNumber,
      sameNearestNumber, hx, hy]
    cases literal.number? with
    | none => rfl
    | some z => exact Binary64.equals_congr_right h
  · contradiction

/-- Items that are equal to the same literals make lists that are equal to the same lists. -/
theorem itemsEqualBy_eq_of_forall₂ {as bs : List Value} {sameNumber : Value → Value → Bool}
    (h : List.Forall₂ (fun a b => ∀ literal, equalBy sameNumber literal a =
      equalBy sameNumber literal b) as bs) (literals : List Value) :
    itemsEqualBy sameNumber literals as = itemsEqualBy sameNumber literals bs := by
  induction h generalizing literals with
  | nil => rfl
  | cons hfirst _ ih =>
    cases literals with
    | nil => rfl
    | cons literal rest => rw [itemsEqualBy, itemsEqualBy, hfirst, ih]

/-- Entries that are equal to the same literals make tables that are equal to the same tables. -/
theorem entriesEqualBy_eq_of_keys {as bs : List (String × Value)}
    {sameNumber : Value → Value → Bool} (hkeys : (Entries.keys as).Perm (Entries.keys bs))
    (h : ∀ {key a b}, (key, a) ∈ as → (key, b) ∈ bs → ∀ literal,
      equalBy sameNumber literal a = equalBy sameNumber literal b)
    (literals : List (String × Value)) :
    entriesEqualBy sameNumber literals as = entriesEqualBy sameNumber literals bs := by
  induction literals with
  | nil => rfl
  | cons first rest ih =>
    obtain ⟨key, literal⟩ := first
    rw [entriesEqualBy, entriesEqualBy, ih]
    rcases Entries.lookup_cases_of_keys hkeys key with ⟨ha, hb⟩ | ⟨a, b, ha, hb⟩
    · rw [ha, hb]
    · simp only [ha, hb, h (Entries.mem_of_lookup ha) (Entries.mem_of_lookup hb) literal]

/-- Alike values are loosely equal to the same literals. -/
theorem looselyEquals_eq_of_alike (h : AlikeBy SameLeaf a b) (literal : Value) :
    literal.looselyEquals a = literal.looselyEquals b := by
  induction h generalizing literal with
  | leaf _ _ hrelated =>
    rcases hrelated with rfl | hnumbers
    · rfl
    · exact looselyEquals_eq_of_sameNearestNumber hnumbers literal
  | @array as bs hlength _ ih =>
    cases literal with
    | array literals =>
      exact itemsEqualBy_eq_of_forall₂ (List.forall₂_iff_zip.mpr ⟨hlength, ih⟩) literals
    | _ => rfl
  | @object as bs hkeys _ ih =>
    have hlength : as.length = bs.length := by simpa [Entries.keys] using hkeys.length_eq
    cases literal with
    | object literals =>
      rw [looselyEquals, equalBy, equalBy, hlength, entriesEqualBy_eq_of_keys hkeys ih literals]
    | _ => rfl

/-- Equality of nearest floats is a test of numbers. -/
theorem isOfNumbers_sameNearestNumber : IsOfNumbers sameNearestNumber where
  left ha b := by simp [sameNearestNumber, ha]
  right hb a := by
    rw [sameNearestNumber, hb]
    cases a.number? <;> rfl

/-- Equality of kind and number is a test of numbers. -/
theorem isOfNumbers_sameNumberAndKind : IsOfNumbers sameNumberAndKind where
  left {a} ha b := by cases a <;> simp_all [number?, sameNumberAndKind]
  right {b} hb a := by cases b <;> simp_all [number?, sameNumberAndKind]

/-- A value that is no number is equal to another leaf only if it is the same. -/
theorem equalBy_leaf_iff_eq (hnumbers : IsOfNumbers sameNumber) (hnone : a.number? = none)
    (ha : a.IsLeaf) : equalBy sameNumber a b = true ↔ a = b := by
  have hfalse := hnumbers.left hnone
  cases a with
  | int => simp [number?] at hnone
  | float => simp [number?] at hnone
  | array => contradiction
  | object => contradiction
  | _ => cases b <;> simp [equalBy, hfalse]

/-- A number is equal to what the test finds to be the same. -/
theorem equalBy_of_number? {x : Binary64} (hx : a.number? = some x) :
    equalBy sameNumber a b = sameNumber a b := by
  cases a with
  | int => cases b <;> rfl
  | float => cases b <;> rfl
  | _ => simp [number?] at hx

/-- A leaf is equal only to a leaf, the same one or the same number. -/
theorem equalBy_leaf_iff (hnumbers : IsOfNumbers sameNumber) (ha : a.IsLeaf) :
    equalBy sameNumber a b = true ↔ b.IsLeaf ∧ LeafBy sameNumber a b := by
  cases hx : a.number? with
  | none =>
    rw [equalBy_leaf_iff_eq hnumbers hx ha, LeafBy, hnumbers.left hx]
    simp only [hx, true_and, Bool.false_eq_true, or_false]
    exact ⟨fun h => ⟨h ▸ ha, h⟩, And.right⟩
  | some x =>
    rw [equalBy_of_number? hx, LeafBy, hx]
    simp only [reduceCtorEq, false_and, false_or]
    refine ⟨fun hsame => ⟨?_, hsame⟩, And.right⟩
    cases b with
    | array => rw [hnumbers.right rfl] at hsame; contradiction
    | object => rw [hnumbers.right rfl] at hsame; contradiction
    | _ => trivial

/-- Values that are equal by a test of numbers are alike. -/
theorem alike_of_equalBy (hnumbers : IsOfNumbers sameNumber) (ha : a.DistinctKeys)
    (hb : b.DistinctKeys) (hequal : equalBy sameNumber a b = true) :
    AlikeBy (LeafBy sameNumber) a b := by
  induction a generalizing b with
  | array as ih =>
    have hfalse := hnumbers.left (rfl : (array as).number? = none)
    cases b with
    | array bs =>
      have hitems := itemsEqualBy_iff.mp hequal
      obtain ⟨hlength, hpairs⟩ := List.forall₂_iff_zip.mp hitems
      refine .array hlength fun {a b} hpair => ?_
      obtain ⟨hmem, hmem'⟩ := List.of_mem_zip hpair
      exact ih a hmem (ha.item hmem) (hb.item hmem') (hpairs hpair)
    | _ => simp [equalBy, hfalse] at hequal
  | object as ih =>
    have hfalse := hnumbers.left (rfl : (object as).number? = none)
    cases b with
    | object bs =>
      rw [equalBy, Bool.and_eq_true, beq_iff_eq] at hequal
      have hfound := entriesEqualBy_iff.mp hequal.2
      have hsubset : Entries.keys as ⊆ Entries.keys bs := by
        intro key hkey
        obtain ⟨⟨key, a⟩, hentry, rfl⟩ := List.mem_map.mp hkey
        obtain ⟨b, hlookup, _⟩ := hfound (key, a) hentry
        exact Entries.mem_keys_of_lookup hlookup
      have hlength : (Entries.keys bs).length ≤ (Entries.keys as).length := by
        simp [Entries.keys, hequal.1]
      refine .object ((List.subperm_of_subset ha.self hsubset).perm_of_length_le hlength) ?_
      intro key a b hmem hmem'
      obtain ⟨other, hlookup, hsame⟩ := hfound (key, a) hmem
      rw [Entries.lookup_of_mem hb.self hmem'] at hlookup
      obtain rfl := Option.some.inj hlookup
      exact ih (key, a) hmem (ha.entry hmem) (hb.entry hmem') hsame
    | _ => simp [equalBy, hfalse] at hequal
  | _ =>
    obtain ⟨hleaf, hsame⟩ := (equalBy_leaf_iff hnumbers (by trivial)).mp hequal
    exact .leaf trivial hleaf hsame

/-- Alike values are equal by the test of numbers that their leaves pass. -/
theorem equalBy_of_alike (hnumbers : IsOfNumbers sameNumber)
    (h : AlikeBy (LeafBy sameNumber) a b) : equalBy sameNumber a b = true := by
  induction h with
  | leaf ha hb hrelated => exact (equalBy_leaf_iff hnumbers ha).mpr ⟨hb, hrelated⟩
  | array hlength _ ih =>
    rw [equalBy]
    exact itemsEqualBy_iff.mpr (List.forall₂_iff_zip.mpr ⟨hlength, ih⟩)
  | @object as bs hkeys _ ih =>
    have hlength : as.length = bs.length := by simpa [Entries.keys] using hkeys.length_eq
    rw [equalBy, hlength, beq_self_eq_true, Bool.true_and, entriesEqualBy_iff]
    rintro ⟨key, a⟩ ha
    obtain ⟨b, hlookup⟩ :=
      Entries.exists_lookup_of_mem_keys (hkeys.mem_iff.mp (List.mem_map_of_mem ha))
    exact ⟨b, hlookup, ih ha (Entries.mem_of_lookup hlookup)⟩

/-- Values are equal by a test of numbers exactly if they are alike with the same numbers. -/
theorem equalBy_iff_alike (hnumbers : IsOfNumbers sameNumber) (ha : a.DistinctKeys)
    (hb : b.DistinctKeys) : equalBy sameNumber a b = true ↔ AlikeBy (LeafBy sameNumber) a b :=
  ⟨alike_of_equalBy hnumbers ha hb, equalBy_of_alike hnumbers⟩

/-- Loosely equal values are alike. -/
theorem alike_of_looselyEquals (ha : a.DistinctKeys) (hb : b.DistinctKeys)
    (hequal : a.looselyEquals b = true) : AlikeBy SameLeaf a b :=
  (alike_of_equalBy isOfNumbers_sameNearestNumber ha hb hequal).mono fun _ _ => .imp_left And.right

end ControlProps.Value
