import ControlProps.Proofs.Entries
import ControlProps.Proofs.Except
import Mathlib.Data.List.Perm.Basic

/-!
# Paired lists

Two lists are often related item by item, as the results of a loop are to what it runs over. Tables
with the same keys in another order can be paired as well, once the first of them is arranged like
the second.
-/

namespace ControlProps

variable {α β : Type} {as : List α} {bs : List β}

/-- Of lists that are related member by member, each member of the first has a partner. -/
theorem exists_mem_right_of_forall₂ {related : α → β → Prop}
    (hrelated : List.Forall₂ related as bs) {a : α} (ha : a ∈ as) : ∃ b ∈ bs, related a b := by
  induction hrelated with
  | nil => contradiction
  | @cons first partner _ _ hfirst _ ih =>
    rcases List.mem_cons.mp ha with rfl | hrest
    · exact ⟨partner, List.mem_cons_self, hfirst⟩
    · obtain ⟨b, hb, hab⟩ := ih hrest
      exact ⟨b, List.mem_cons_of_mem _ hb, hab⟩

/-- Of lists that are related member by member, each member of the second has a partner. -/
theorem exists_mem_left_of_forall₂ {related : α → β → Prop}
    (hrelated : List.Forall₂ related as bs) {b : β} (hb : b ∈ bs) : ∃ a ∈ as, related a b :=
  exists_mem_right_of_forall₂ hrelated.flip hb

/-- Branches without an order of their own: what holds of one list of some holds of the other. -/
theorem exists_mem_iff_of_forall₂ {p : α → Prop} {q : β → Prop}
    (h : List.Forall₂ (fun a b => p a ↔ q b) as bs) : (∃ a ∈ as, p a) ↔ ∃ b ∈ bs, q b := by
  induction h with
  | nil => simp
  | cons hfirst _ ih => simp only [List.exists_mem_cons_iff, hfirst, ih]

/-- Members that are paired have a property together, so all of one list have it if all of the other
do. -/
theorem forall_mem_iff_of_forall₂ {p : α → Prop} {q : β → Prop}
    (h : List.Forall₂ (fun a b => p a ↔ q b) as bs) : (∀ a ∈ as, p a) ↔ ∀ b ∈ bs, q b := by
  induction h with
  | nil => simp
  | cons hfirst _ ih => simp only [List.forall_mem_cons, hfirst, ih]

/-- Paired lists have as many members that satisfy a test as they have pairs that do. -/
theorem countP_eq_of_forall₂ {p : α → Bool} {q : β → Bool}
    (h : List.Forall₂ (fun a b => p a = q b) as bs) : as.countP p = bs.countP q := by
  induction h with
  | nil => rfl
  | cons hfirst _ ih => rw [List.countP_cons, List.countP_cons, hfirst, ih]

/-- A map leaves a list as it is exactly if it leaves each member as it is. -/
theorem map_eq_self_iff {f : α → α} : as.map f = as ↔ ∀ a ∈ as, f a = a := by
  simpa using List.map_inj_left (l := as) (f := f) (g := id)

/-- A map of values leaves a table as it is exactly if it leaves the value of each key as it is. -/
theorem map_values_eq_self_iff {f : β → β} {entries : List (α × β)} :
    (entries.map fun entry => (entry.1, f entry.2)) = entries ↔
      ∀ entry ∈ entries, f entry.2 = entry.2 := by
  simp [map_eq_self_iff, Prod.ext_iff]

/-- Lists that are paired through members of a third list, member by member. -/
theorem exists_forall₂_comp_iff {γ : Type} {cs : List γ} {first : α → β → Prop}
    {second : β → γ → Prop} :
    (∃ bs, List.Forall₂ first as bs ∧ List.Forall₂ second bs cs) ↔
      List.Forall₂ (fun a c => ∃ b, first a b ∧ second b c) as cs := by
  constructor
  · rintro ⟨bs, hfirst, hsecond⟩
    induction hfirst generalizing cs with
    | nil =>
      cases hsecond
      exact .nil
    | cons hab _ ih =>
      cases hsecond with
      | cons hbc hrest => exact .cons ⟨_, hab, hbc⟩ (ih hrest)
  · intro h
    induction h with
    | nil => exact ⟨[], .nil, .nil⟩
    | cons hac _ ih =>
      obtain ⟨b, hab, hbc⟩ := hac
      obtain ⟨bs, hfirst, hsecond⟩ := ih
      exact ⟨b :: bs, .cons hab hfirst, .cons hbc hsecond⟩

/-- Each member of the one list can be given a partner if the property holds of all. -/
theorem exists_forall₂_iff {related : α → β → Prop} :
    (∃ bs, List.Forall₂ related as bs) ↔ ∀ a ∈ as, ∃ b, related a b := by
  constructor
  · rintro ⟨bs, hrelated⟩ a ha
    obtain ⟨b, _, hab⟩ := exists_mem_right_of_forall₂ hrelated ha
    exact ⟨b, hab⟩
  · intro h
    induction as with
    | nil => exact ⟨[], .nil⟩
    | cons a as ih =>
      obtain ⟨⟨b, hab⟩, hrest⟩ := List.forall_mem_cons.mp h
      obtain ⟨bs, hbs⟩ := ih hrest
      exact ⟨b :: bs, .cons hab hbs⟩

/-- The members of two lists in a row are paired list by list. -/
theorem forall₂_append_left_iff {related : α → β → Prop} {others : List α} :
    List.Forall₂ related (as ++ others) bs ↔
      ∃ first second, List.Forall₂ related as first ∧ List.Forall₂ related others second ∧
        bs = first ++ second := by
  constructor
  · intro h
    refine ⟨bs.take as.length, bs.drop as.length, ?_, ?_, (List.take_append_drop _ _).symm⟩
    · have hfirst := List.forall₂_take as.length h
      rwa [List.take_left] at hfirst
    · have hsecond := List.forall₂_drop as.length h
      rwa [List.drop_left] at hsecond
  · rintro ⟨first, second, hfirst, hsecond, rfl⟩
    exact List.rel_append hfirst hsecond

/-- A step for each member of a list succeeds if all steps do, and gives their results in order. -/
theorem mapM_eq_ok_iff {ε : Type} {step : α → Except ε β} :
    as.mapM step = .ok bs ↔ List.Forall₂ (fun a b => step a = .ok b) as bs := by
  induction as generalizing bs with
  | nil => exact pure_eq_ok_iff.trans (List.forall₂_nil_left_iff.trans eq_comm).symm
  | cons a as ih =>
    rw [List.mapM_cons, List.forall₂_cons_left_iff]
    simp only [bind_eq_ok_iff, pure_eq_ok_iff, ih]
    constructor
    · rintro ⟨b, hb, bs', hbs', rfl⟩
      exact ⟨b, bs', hb, hbs', rfl⟩
    · rintro ⟨b, bs', hb, hbs', rfl⟩
      exact ⟨b, hb, bs', hbs', rfl⟩

/-- Steps of a state are taken one after the other. -/
theorem mapM_run_cons {σ : Type} (step : α → StateM σ β) (a : α) (as : List α) (s : σ) :
    ((a :: as).mapM step).run s =
      (((step a).run s).1 :: ((as.mapM step).run ((step a).run s).2).1,
        ((as.mapM step).run ((step a).run s).2).2) := by
  rw [List.mapM_cons]
  rfl

/-- Steps of a state, one for each member of a list: what every step keeps is so behind them all,
and the results are paired with the members as those of every step are. -/
theorem mapM_run_spec {σ : Type} {step : α → StateM σ β} {kept : σ → Prop}
    {related : α → β → Prop}
    (hstep : ∀ a s, kept s → related a ((step a).run s).1 ∧ kept ((step a).run s).2) {s : σ}
    (hs : kept s) :
    List.Forall₂ related as ((as.mapM step).run s).1 ∧ kept ((as.mapM step).run s).2 := by
  induction as generalizing s with
  | nil => exact ⟨.nil, hs⟩
  | cons a as ih =>
    obtain ⟨hrelated, hkept⟩ := hstep a s hs
    obtain ⟨hrest, hlast⟩ := ih hkept
    rw [mapM_run_cons]
    exact ⟨.cons hrelated hrest, hlast⟩

/-- In tables with the same keys a look-up succeeds or fails together. -/
theorem Entries.lookup_cases_of_keys {as : List (String × α)} {bs : List (String × β)}
    (hkeys : (keys as).Perm (keys bs)) (key : String) :
    (as.lookup key = none ∧ bs.lookup key = none) ∨
      ∃ a b, as.lookup key = some a ∧ bs.lookup key = some b := by
  by_cases hkey : key ∈ keys as
  · obtain ⟨a, ha⟩ := exists_lookup_of_mem_keys hkey
    obtain ⟨b, hb⟩ := exists_lookup_of_mem_keys (hkeys.mem_iff.mp hkey)
    exact .inr ⟨a, b, ha, hb⟩
  · have hkey' : key ∉ keys bs := fun hmem => hkey (hkeys.mem_iff.mpr hmem)
    exact .inl ⟨lookup_eq_none_iff_notMem.mpr hkey, lookup_eq_none_iff_notMem.mpr hkey'⟩

/-- A table with the keys of another one can be arranged so that entries of one key are paired. -/
theorem Entries.exists_perm_forall₂ {as : List (String × α)} {bs : List (String × β)}
    {related : String × α → String × β → Prop} (hkeys : (keys as).Perm (keys bs))
    (h : ∀ {key a b}, (key, a) ∈ as → (key, b) ∈ bs → related (key, a) (key, b)) :
    ∃ arranged, as.Perm arranged ∧ List.Forall₂ related arranged bs := by
  have has : List.Forall₂ (fun (a : String × α) key => a.1 = key) as (keys as) :=
    List.forall₂_map_right_iff.mpr (List.forall₂_same.mpr fun _ _ => rfl)
  have hcomp : Relation.Comp (List.Forall₂ fun (a : String × α) key => a.1 = key) List.Perm as
      (keys bs) := ⟨keys as, has, hkeys⟩
  rw [List.forall₂_comp_perm_eq_perm_comp_forall₂] at hcomp
  obtain ⟨arranged, horder, harranged⟩ := hcomp
  rw [keys, List.forall₂_map_right_iff, List.forall₂_iff_zip] at harranged
  obtain ⟨hlength, hsame⟩ := harranged
  refine ⟨arranged, horder, List.forall₂_iff_zip.mpr ⟨hlength, fun {first second} hpair => ?_⟩⟩
  obtain ⟨hfirst, hsecond⟩ := List.of_mem_zip hpair
  obtain ⟨key, a⟩ := first
  obtain ⟨key', b⟩ := second
  obtain rfl : key = key' := hsame hpair
  exact h (horder.mem_iff.mpr hfirst) hsecond

/-- What entries of the same keys have together, all entries of both tables have together. -/
theorem Entries.forall_mem_iff_of_keys {as : List (String × α)} {bs : List (String × β)}
    {p : String × α → Prop} {q : String × β → Prop} (hkeys : (keys as).Perm (keys bs))
    (h : ∀ {key a b}, (key, a) ∈ as → (key, b) ∈ bs → (p (key, a) ↔ q (key, b))) :
    (∀ entry ∈ as, p entry) ↔ ∀ entry ∈ bs, q entry := by
  have hpairs : ∃ arranged, as.Perm arranged ∧
      List.Forall₂ (fun a b => p a ↔ q b) arranged bs := exists_perm_forall₂ hkeys h
  obtain ⟨arranged, horder, hiff⟩ := hpairs
  rw [← forall_mem_iff_of_forall₂ hiff]
  exact forall_congr' fun entry => imp_congr_left horder.mem_iff

end ControlProps
