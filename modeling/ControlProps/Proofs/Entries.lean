import ControlProps.Entries

/-!
# Looking up entries

A look-up gives the first entry of a key. Where no key is repeated, as in every table that is built
by `Entries.set`, it gives exactly the entries of the list.
-/

namespace ControlProps.Entries

variable {α : Type} {entries : List (String × α)} {key : String} {value : α}

/-- A look-up finds an entry of the list. -/
theorem mem_of_lookup (hfound : entries.lookup key = some value) : (key, value) ∈ entries := by
  obtain ⟨before, after, rfl, _⟩ := List.lookup_eq_some_iff.mp hfound
  simp

/-- A look-up finds only keys that are present. -/
theorem mem_keys_of_lookup (hfound : entries.lookup key = some value) : key ∈ keys entries :=
  List.mem_map_of_mem (mem_of_lookup hfound)

/-- A look-up fails for the keys that are absent. -/
theorem lookup_eq_none_iff_notMem : entries.lookup key = none ↔ key ∉ keys entries := by
  rw [List.lookup_eq_none_iff]
  constructor
  · intro habsent hmem
    obtain ⟨entry, hentry, rfl⟩ := List.mem_map.mp hmem
    simpa using habsent entry hentry
  · intro hkey entry hentry
    have hne : key ≠ entry.1 := fun h => hkey (h ▸ List.mem_map_of_mem hentry)
    simpa using hne

/-- A look-up succeeds for the keys that are present. -/
theorem exists_lookup_of_mem_keys (hkey : key ∈ keys entries) :
    ∃ value, entries.lookup key = some value := by
  cases hfound : entries.lookup key with
  | none => exact absurd hkey (lookup_eq_none_iff_notMem.mp hfound)
  | some value => exact ⟨value, rfl⟩

/-- Among distinct keys each entry is the one that a look-up finds. -/
theorem lookup_of_mem (hkeys : (keys entries).Nodup) (hmem : (key, value) ∈ entries) :
    entries.lookup key = some value := by
  obtain ⟨before, after, rfl⟩ := List.append_of_mem hmem
  rw [List.lookup_eq_some_iff]
  refine ⟨before, after, rfl, fun entry hentry => ?_⟩
  rw [keys, List.map_append, List.nodup_append] at hkeys
  have hne := hkeys.2.2 entry.1 (List.mem_map_of_mem hentry) key (by simp)
  simpa using hne.symm

/-- Setting a key adds at most the entry that is set. -/
theorem mem_of_mem_set {entry : String × α} (hmem : entry ∈ set entries key value) :
    entry = (key, value) ∨ entry ∈ entries := by
  induction entries with
  | nil => exact .inl (List.mem_singleton.mp hmem)
  | cons first rest ih =>
    rw [set] at hmem
    split at hmem
    · exact (List.mem_cons.mp hmem).imp_right (List.mem_cons_of_mem _)
    · rcases List.mem_cons.mp hmem with rfl | hrest
      · exact .inr List.mem_cons_self
      · exact (ih hrest).imp_right (List.mem_cons_of_mem _)

/-- A table that is built entry by entry has no entries but those. -/
theorem mem_of_mem_ofList {entry : String × α} (hmem : entry ∈ ofList entries) :
    entry ∈ entries := by
  have hall (table given : List (String × α)) (hentry : entry ∈ given.foldl
      (fun table entry => set table entry.1 entry.2) table) : entry ∈ table ∨ entry ∈ given := by
    induction given generalizing table with
    | nil => exact .inl hentry
    | cons first rest ih =>
      rcases ih _ hentry with htable | hrest
      · exact (mem_of_mem_set htable).elim (fun h => .inr (h ▸ List.mem_cons_self)) .inl
      · exact .inr (List.mem_cons_of_mem _ hrest)
  exact (hall [] entries hmem).resolve_left List.not_mem_nil

/-- A key that is absent is set behind the entries. -/
theorem set_of_notMem (hkey : key ∉ keys entries) :
    set entries key value = entries ++ [(key, value)] := by
  induction entries with
  | nil => rfl
  | cons first rest ih =>
    rw [keys, List.map_cons, List.mem_cons, not_or] at hkey
    rw [set, if_neg (Ne.symm hkey.1), ih hkey.2, List.cons_append]

/-- Entries whose keys are new and distinct are added as they are. -/
theorem foldl_set_of_nodup {earlier : List (String × α)}
    (hkeys : (keys (earlier ++ entries)).Nodup) :
    entries.foldl (fun table entry => set table entry.1 entry.2) earlier = earlier ++ entries := by
  induction entries generalizing earlier with
  | nil => simp
  | cons first rest ih =>
    have hrest : (keys (earlier ++ [first] ++ rest)).Nodup := by simpa using hkeys
    have hfirst : first.1 ∉ keys earlier := by
      rw [keys, List.map_append, List.nodup_append] at hkeys
      exact fun hmem => hkeys.2.2 first.1 hmem first.1 (by simp) rfl
    rw [List.foldl_cons, set_of_notMem hfirst, ih hrest]
    simp

/-- Entries with distinct keys are a table as they are. -/
theorem ofList_of_nodup (hkeys : (keys entries).Nodup) : ofList entries = entries := by
  have hall : (keys ([] ++ entries)).Nodup := hkeys
  exact foldl_set_of_nodup hall

/-- Names that are not among the earlier ones are added as they are. -/
theorem foldl_insertName_of_nodup {names earlier : List String}
    (hnames : (earlier ++ names).Nodup) : names.foldl insertName earlier = earlier ++ names := by
  induction names generalizing earlier with
  | nil => simp
  | cons name rest ih =>
    have hname : name ∉ earlier := fun hmem =>
      (List.nodup_append.mp hnames).2.2 name hmem name (by simp) rfl
    have hrest : (earlier ++ [name] ++ rest).Nodup := by simpa using hnames
    rw [List.foldl_cons, insertName, if_neg (by simpa using hname), ih hrest]
    simp

/-- Names without repetition are left as they are. -/
theorem distinct_of_nodup {names : List String} (hnames : names.Nodup) :
    distinct names = names := by
  have hall : ([] ++ names).Nodup := hnames
  exact foldl_insertName_of_nodup hall

/-- Names are added behind the earlier ones: those that are new, in order of first appearance. -/
theorem foldl_insertName (names earlier : List String) :
    names.foldl insertName earlier = earlier ++ (names.filter (· ∉ earlier)).eraseDups := by
  induction names generalizing earlier with
  | nil => simp
  | cons name rest ih =>
    rw [List.foldl_cons, ih, insertName]
    by_cases hname : name ∈ earlier
    · simp [hname]
    · have hfirst : (name :: rest).filter (· ∉ earlier) = name :: rest.filter (· ∉ earlier) :=
        List.filter_cons_of_pos (decide_eq_true hname)
      -- what comes later is new if it is neither an earlier name nor this one
      have hlater : rest.filter (· ∉ earlier ++ [name]) =
          (rest.filter (· ∉ earlier)).filter fun other => !other == name := by
        rw [List.filter_filter]
        refine List.filter_congr fun other _ => ?_
        simp [Bool.and_comm, Bool.beq_eq_decide_eq]
      have hcontains : ¬earlier.contains name = true := by simpa using hname
      rw [if_neg hcontains, hfirst, hlater, List.eraseDups_cons, List.append_assoc,
        List.singleton_append]

/-- Names are added to the earlier ones, and nothing else is. -/
theorem mem_foldl_insertName {names earlier : List String} :
    key ∈ names.foldl insertName earlier ↔ key ∈ earlier ∨ key ∈ names := by
  rw [foldl_insertName, List.mem_append, List.mem_eraseDups, List.mem_filter]
  by_cases hkey : key ∈ earlier <;> simp [hkey]

/-- A name that is added is not repeated. -/
theorem nodup_insertName {names : List String} (hnames : names.Nodup) (name : String) :
    (insertName names name).Nodup := by
  unfold insertName
  split
  · exact hnames
  · rename_i hname
    have habsent : name ∉ names := by simpa using hname
    refine List.nodup_append.mpr ⟨hnames, by simp, fun other hother last hlast hsame => ?_⟩
    obtain rfl := List.mem_singleton.mp hlast
    exact habsent (hsame ▸ hother)

/-- Names that are added one after the other are not repeated. -/
theorem nodup_foldl_insertName {earlier : List String} (hearlier : earlier.Nodup)
    (names : List String) : (names.foldl insertName earlier).Nodup := by
  induction names generalizing earlier with
  | nil => exact hearlier
  | cons name rest ih => exact ih (nodup_insertName hearlier name)

/-- Setting a key adds it to the keys. -/
theorem keys_set : keys (set entries key value) = insertName (keys entries) key := by
  induction entries with
  | nil => rfl
  | cons first rest ih =>
    rw [set]
    split
    · rename_i hfirst
      simp [keys, insertName, hfirst]
    · rename_i hfirst
      have hcontains : (keys (first :: rest)).contains key = (keys rest).contains key := by
        simp [keys, Ne.symm hfirst]
      rw [keys, List.map_cons, ← keys, ih, insertName, insertName, hcontains]
      split
      · rfl
      · rfl

/-- The keys of a table that is built entry by entry are not repeated. -/
theorem nodup_keys_ofList (entries : List (String × α)) : (keys (ofList entries)).Nodup := by
  have hall (table : List (String × α)) (htable : (keys table).Nodup) :
      (keys (entries.foldl (fun table entry => set table entry.1 entry.2) table)).Nodup := by
    induction entries generalizing table with
    | nil => exact htable
    | cons first rest ih => exact ih _ (keys_set ▸ nodup_insertName htable first.1)
  exact hall [] List.nodup_nil

/-- Without repetition there are the same names as before. -/
@[simp] theorem mem_distinct {names : List String} : key ∈ distinct names ↔ key ∈ names := by
  simp [distinct, mem_foldl_insertName]

end ControlProps.Entries
