import ControlProps.Proofs.Geometry.Coercion

/-!
# Known and unknown keys of frames

Whether unknown keys are refused makes no other difference to the reading of a frame than that. An
entry that cannot be read is an error in either case, and takes precedence over all unknown keys. A
frame that is read has the known keys of its value, in their order.
-/

namespace ControlProps

namespace FrameRole

variable {role : FrameRole} {key : String}

/-- The keys that stand for something in a role. -/
def keys : FrameRole → List String
  | dimension => ["left", "top", "right", "bottom", "width", "height", "x", "y"]
  | alignment => ["anchor", "alignment"]
  | layer => ["z", "z_index"]

/-- The role of a key is the one among whose keys it is. -/
theorem ofKey?_eq_some_iff : ofKey? key = some role ↔ key ∈ role.keys := by
  have htable (other : FrameRole) : ∀ key ∈ other.keys, ofKey? key = some other := by
    cases other <;> decide
  refine ⟨fun hkey => ?_, htable role key⟩
  simp only [ofKey?, List.contains_iff_mem] at hkey
  split at hkey
  · obtain rfl := Option.some.inj hkey
    assumption
  · split at hkey
    · obtain rfl := Option.some.inj hkey
      assumption
    · split at hkey
      · obtain rfl := Option.some.inj hkey
        assumption
      · contradiction

end FrameRole

/-- Whether a key stands for something in frames. -/
def IsFrameKey (key : String) : Prop := ∃ role : FrameRole, key ∈ role.keys

/-- The keys that stand for something are those that have a role. -/
theorem isFrameKey_iff {key : String} : IsFrameKey key ↔ ∃ role, FrameRole.ofKey? key = some role :=
  exists_congr fun _ => FrameRole.ofKey?_eq_some_iff.symm

instance (key : String) : Decidable (IsFrameKey key) :=
  decidable_of_iff ((FrameRole.ofKey? key).isSome = true) <|
    Option.isSome_iff_exists.trans isFrameKey_iff.symm

/-- The keys of an object under which something else than `null` stands, in order. -/
def Value.presentKeys : Value → List String
  | .object entries => Entries.keys (PropertyBag.present entries)
  | _ => []

/-- The keys that a frame of a value has. -/
def Value.frameKeys (value : Value) : List String := value.presentKeys.filter (IsFrameKey ·)

/-- The keys that no frame has. -/
def Value.unknownFrameKeys (value : Value) : List String :=
  value.presentKeys.filter (¬IsFrameKey ·)

namespace Frame

variable {entries : PropertyBag} {known : List (String × FrameEntry)} {unknown : List String}

/-- Whether an entry is read, under its key, in the role of that key. -/
def IsRead (given : String × Value) (found : String × FrameEntry) : Prop :=
  found.1 = given.1 ∧
    ∃ role, given.1 ∈ role.keys ∧ FrameEntry.ofValue role given.2 = .ok (some found.2)

/-- Sorting reads the entries under known keys and lists the other keys, both in order, and leaves
out what is `null`. -/
theorem sortEntries_eq_ok_iff :
    sortEntries entries = .ok (known, unknown) ↔
      List.Forall₂ IsRead ((PropertyBag.present entries).filter (IsFrameKey ·.1)) known ∧
        (Entries.keys (PropertyBag.present entries)).filter (¬IsFrameKey ·) = unknown := by
  induction entries generalizing known unknown with
  | nil =>
    rw [sortEntries]
    simp [PropertyBag.present, Entries.keys, eq_comm]
  | cons first rest ih =>
    obtain ⟨key, value⟩ := first
    cases hnull : value.isNull with
    | true =>
      have hpresent : PropertyBag.present ((key, value) :: rest) = PropertyBag.present rest := by
        simp [PropertyBag.present, hnull]
      rw [sortEntries_cons_of_isNull hnull, ih, hpresent]
    | false =>
      have hpresent : PropertyBag.present ((key, value) :: rest) =
          (key, value) :: PropertyBag.present rest := by
        simp [PropertyBag.present, hnull]
      have hkeys : Entries.keys ((key, value) :: PropertyBag.present rest) =
          key :: Entries.keys (PropertyBag.present rest) := rfl
      rw [hpresent, hkeys]
      cases hrole : FrameRole.ofKey? key with
      | none =>
        have hkey : ¬IsFrameKey key := by simp [isFrameKey_iff, hrole]
        rw [sortEntries_cons_of_unknown hnull hrole]
        simp [ih, hkey]
      | some role =>
        have hkey : IsFrameKey key := isFrameKey_iff.mpr ⟨role, hrole⟩
        have hfirst {found : FrameEntry} : IsRead (key, value) (key, found) ↔
            FrameEntry.ofValue role value = .ok (some found) := by
          simp [IsRead, ← FrameRole.ofKey?_eq_some_iff, hrole]
        have hleft : ((key, value) :: PropertyBag.present rest).filter (IsFrameKey ·.1) =
            (key, value) :: (PropertyBag.present rest).filter (IsFrameKey ·.1) :=
          List.filter_cons_of_pos (decide_eq_true hkey)
        have hright : (key :: Entries.keys (PropertyBag.present rest)).filter (¬IsFrameKey ·) =
            (Entries.keys (PropertyBag.present rest)).filter (¬IsFrameKey ·) :=
          List.filter_cons_of_neg (by simpa using hkey)
        rw [sortEntries_cons_of_known hnull hrole, hleft, hright, List.forall₂_cons_left_iff]
        constructor
        · rintro ⟨entry, others, hentry, hothers, rfl⟩
          obtain ⟨hread, hunknown⟩ := ih.mp hothers
          cases entry with
          | none => exact absurd hentry (FrameEntry.ofValue_ne_ok_none hnull)
          | some found => exact ⟨⟨_, others, hfirst.mpr hentry, hread, rfl⟩, hunknown⟩
        · rintro ⟨⟨⟨_, found⟩, others, hfound, hread, rfl⟩, hunknown⟩
          obtain rfl : _ = key := hfound.1
          exact ⟨some found, others, hfirst.mp hfound, ih.mpr ⟨hread, hunknown⟩, rfl⟩

/-- Entries that are read stay under their keys. -/
theorem keys_of_sortEntries (hsorted : sortEntries entries = .ok (known, unknown)) :
    Entries.keys known = (Value.object entries).frameKeys ∧
      unknown = (Value.object entries).unknownFrameKeys := by
  obtain ⟨hread, hunknown⟩ := sortEntries_eq_ok_iff.mp hsorted
  refine ⟨?_, hunknown.symm⟩
  have hkeys : List.Forall₂ (· = ·) (Entries.keys known) (Value.object entries).frameKeys := by
    rw [Value.frameKeys, Value.presentKeys, Entries.keys, Entries.keys, List.filter_map,
      List.forall₂_map_left_iff, List.forall₂_map_right_iff]
    exact hread.flip.imp fun _ _ h => h.1
  rwa [List.forall₂_eq_eq_eq] at hkeys

/-- Each entry of a frame that was read has been read from one of its value. -/
theorem exists_given_of_ofValue {strict : Bool} {value : Value} {frame : Frame}
    {found : String × FrameEntry} (hvalue : ofValue strict value = .ok frame)
    (hfound : found ∈ frame.entries) : ∃ given, IsRead given found := by
  cases value with
  | null =>
    obtain rfl := Except.ok.inj hvalue
    contradiction
  | object entries =>
    obtain ⟨unknown, hsorted, _⟩ := ofValue_object_eq_ok_iff.mp hvalue
    obtain ⟨given, _, hgiven⟩ :=
      exists_mem_left_of_forall₂ (sortEntries_eq_ok_iff.mp hsorted).1 hfound
    exact ⟨given, hgiven⟩
  | _ => contradiction

/-- A value fails to be read in either mode with the same error, or it is read as a frame with its
known keys and is only refused for unknown ones. -/
theorem ofValue_cases (value : Value) :
    (∃ error, ∀ strict, ofValue strict value = .error error) ∨
      ∃ frame, Entries.keys frame.entries = value.frameKeys ∧
        ∀ strict, ofValue strict value =
          if strict ∧ value.unknownFrameKeys ≠ [] then
            .error (.unknownKeys .frame value.unknownFrameKeys)
          else .ok frame := by
  cases value with
  | null =>
    refine .inr ⟨⟨[]⟩, rfl, fun strict => ?_⟩
    simp [ofValue, Value.unknownFrameKeys, Value.presentKeys]
  | object entries =>
    cases hsorted : sortEntries entries with
    | error error =>
      refine .inl ⟨error, fun strict => ?_⟩
      rw [ofValue, hsorted]
      rfl
    | ok sorted =>
      obtain ⟨known, unknown⟩ := sorted
      obtain ⟨hkeys, rfl⟩ := keys_of_sortEntries hsorted
      refine .inr ⟨⟨known⟩, hkeys, fun strict => ?_⟩
      rw [ofValue, hsorted]
      by_cases hrefused : strict = true ∧ (Value.object entries).unknownFrameKeys ≠ []
      · rw [if_pos hrefused]
        exact if_pos hrefused
      · rw [if_neg hrefused]
        exact if_neg hrefused
  | _ => exact .inl ⟨_, fun _ => rfl⟩

/--
**Strict and lenient frames.** Refusing unknown keys succeeds exactly where dropping them does and
there are none, and with the same frame. Where there are some and dropping them succeeds, the error
lists all of them in their order. Where dropping them fails, refusing them fails for the same
reason. A frame that is read has exactly the known keys under which something stands, in order.
-/
theorem strict_frames_refine_lenient (value : Value) :
    (∀ frame, ofValue true value = .ok frame ↔
      ofValue false value = .ok frame ∧ ∀ key ∈ value.presentKeys, IsFrameKey key) ∧
    (∀ frame, ofValue false value = .ok frame →
      (∃ key ∈ value.presentKeys, ¬IsFrameKey key) →
        ofValue true value = .error (.unknownKeys .frame value.unknownFrameKeys)) ∧
    (∀ error, ofValue false value = .error error → ofValue true value = .error error) ∧
    ∀ strict frame, ofValue strict value = .ok frame →
      Entries.keys frame.entries = value.frameKeys := by
  rcases ofValue_cases value with ⟨error, hfails⟩ | ⟨frame, hkeys, hread⟩
  · simp [hfails]
  have hunknown : value.unknownFrameKeys = [] ↔ ∀ key ∈ value.presentKeys, IsFrameKey key := by
    simp [Value.unknownFrameKeys]
  have hlenient : ofValue false value = .ok frame := by simp [hread]
  have hrefused (hsome : value.unknownFrameKeys ≠ []) :
      ofValue true value = .error (.unknownKeys .frame value.unknownFrameKeys) :=
    (hread true).trans (if_pos ⟨rfl, hsome⟩)
  have hframe {strict : Bool} {found : Frame} (hfound : ofValue strict value = .ok found) :
      found = frame := by
    rw [hread] at hfound
    split at hfound
    · contradiction
    · exact (Except.ok.inj hfound).symm
  refine ⟨fun found => ⟨fun hfound => ?_, ?_⟩, fun _ _ hkey => ?_, fun error herror => ?_,
    fun strict found hfound => ?_⟩
  · obtain rfl := hframe hfound
    refine ⟨hlenient, hunknown.mp ?_⟩
    by_contra hsome
    exact absurd (hfound.symm.trans (hrefused hsome)) nofun
  · rintro ⟨hfound, hall⟩
    obtain rfl := hframe hfound
    simp [hread, hunknown.mpr hall]
  · obtain ⟨key, hmem, hkey⟩ := hkey
    exact hrefused fun hnone => hkey (hunknown.mp hnone key hmem)
  · exact absurd (hlenient.symm.trans herror) nofun
  · rw [hframe hfound]
    exact hkeys

/-- Two unknown keys between two known ones; one known key alone; and an unknown key in front of an
empty width. -/
theorem strict_frames_refuse_spin_and_glow :
    let spinning : Value := .object [("left", .int 4), ("spin", .int 2), ("top", .null),
      ("width", .string "25%"), ("glow", .bool true)]
    let plain : Value := .object [("anchor", .string "center")]
    let broken : Value := .object [("spin", .int 2), ("width", .string "")]
    (∃ frame, ofValue false spinning = .ok frame ∧
      Entries.keys frame.entries = ["left", "width"]) ∧
    ofValue true spinning = .error (.unknownKeys .frame ["spin", "glow"]) ∧
    (∃ frame, ofValue false plain = .ok frame ∧ ofValue true plain = .ok frame) ∧
    ofValue true broken = .error (.empty .dimension) := by
  intro spinning plain broken
  obtain ⟨-, hrefuses, -, hkeys⟩ := strict_frames_refine_lenient spinning
  have hspinning : (ofValue false spinning).toBool = true := by decide +kernel
  have hplain : (ofValue false plain).toBool = true := by decide +kernel
  have hunknown : ∃ key ∈ spinning.presentKeys, ¬IsFrameKey key := ⟨"spin", by decide, by decide⟩
  obtain ⟨frame, hframe⟩ := toBool_eq_true_iff.mp hspinning
  obtain ⟨other, hother⟩ := toBool_eq_true_iff.mp hplain
  refine ⟨⟨frame, hframe, (hkeys false frame hframe).trans (by decide)⟩,
    (hrefuses frame hframe hunknown).trans (by decide), ⟨other, hother, ?_⟩, ?_⟩
  · exact ((strict_frames_refine_lenient plain).1 other).mpr ⟨hother, by decide⟩
  · exact (strict_frames_refine_lenient broken).2.2.1 _ (by decide +kernel)

end Frame

end ControlProps
