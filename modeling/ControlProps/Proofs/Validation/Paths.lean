import ControlProps.Engine.Patterns
import ControlProps.Proofs.Binary64.Text
import ControlProps.Proofs.Validation.Composition
import Mathlib.Data.List.Nodup

/-!
# Paths of records

A place can be read off its written form, if no key in it has a character that begins a step. A walk
has one record at most at each place, so the paths of the records of a value all differ.
-/

namespace ControlProps

namespace Step

/-- Whether a step can be told from the steps around it in a written place. -/
def IsPlain : Step → Prop
  | key name => name ≠ "" ∧ '.' ∉ name.toList ∧ '[' ∉ name.toList
  | index _ => True

/-- The character that begins a written step. -/
def mark : Step → Char
  | key _ => '.'
  | index _ => '['

/-- The characters of a written step behind its mark. -/
def body : Step → List Char
  | key name => name.toList
  | index place => Nat.toDigits 10 place ++ [']']

/-- A character that begins a written step. -/
def isMark (c : Char) : Bool := c == '.' || c == '['

@[simp] theorem isMark_mark (step : Step) : isMark step.mark = true := by cases step <;> rfl

/-- Behind its mark a plain step has no other one. -/
theorem IsPlain.isMark_eq_false {step : Step} (hplain : step.IsPlain) {c : Char}
    (hc : c ∈ step.body) : isMark c = false := by
  cases step with
  | key name =>
    have hpoint : c ≠ '.' := fun h => hplain.2.1 (h ▸ hc)
    have hbracket : c ≠ '[' := fun h => hplain.2.2 (h ▸ hc)
    simp [isMark, hpoint, hbracket]
  | index place =>
    rcases List.mem_append.mp hc with hdigit | hlast
    · have hbounds := toNat_of_isDigit ((isDigits_toDigits place).2 c hdigit)
      have hpoint : c ≠ '.' := by
        rintro rfl
        exact absurd hbounds (by decide)
      have hbracket : c ≠ '[' := by
        rintro rfl
        exact absurd hbounds (by decide)
      simp [isMark, hpoint, hbracket]
    · obtain rfl := List.mem_singleton.mp hlast
      rfl

/-- A step is known by its mark and what is written behind it. -/
theorem eq_of_mark_of_body {step other : Step} (hmark : step.mark = other.mark)
    (hbody : step.body = other.body) : step = other := by
  cases step with
  | key name =>
    cases other with
    | key name' => exact congrArg key (String.toList_inj.mp hbody)
    | index place => simp [mark] at hmark
  | index place =>
    cases other with
    | key name => simp [mark] at hmark
    | index place' =>
      have hdigits := congrArg digitsValue (List.append_cancel_right hbody)
      rw [digitsValue_toDigits, digitsValue_toDigits] at hdigits
      exact congrArg index hdigits

/-- The characters of steps that are written one after the other. -/
def written (steps : List Step) : List Char := steps.flatMap fun step => step.mark :: step.body

@[simp] theorem written_nil : written [] = [] := rfl

@[simp] theorem written_cons (step : Step) (rest : List Step) :
    written (step :: rest) = step.mark :: (step.body ++ written rest) := List.flatMap_cons

/-- Behind a step there is nothing more, or the mark of the next one. -/
theorem isMark_of_mem_head? {steps : List Step} {c : Char} (hc : c ∈ (written steps).head?) :
    isMark c = true := by
  cases steps with
  | nil => simp at hc
  | cons step rest =>
    obtain rfl : step.mark = c := by simpa using hc
    exact isMark_mark step

/-- Plain steps are known by their characters. -/
theorem written_inj {steps others : List Step} (hsteps : ∀ step ∈ steps, step.IsPlain)
    (hothers : ∀ step ∈ others, step.IsPlain) (hwritten : written steps = written others) :
    steps = others := by
  induction steps generalizing others with
  | nil =>
    cases others with
    | nil => rfl
    | cons other others => simp at hwritten
  | cons step steps ih =>
    cases others with
    | nil => simp at hwritten
    | cons other others =>
      obtain ⟨hstep, hsteps⟩ := List.forall_mem_cons.mp hsteps
      obtain ⟨hother, hothers⟩ := List.forall_mem_cons.mp hothers
      rw [written_cons, written_cons] at hwritten
      obtain ⟨hmark, htail⟩ := List.cons.inj hwritten
      -- both bodies end at the first mark behind them
      have hcut {last : Step} (hlast : last.IsPlain) (rest : List Step) :
          (last.body ++ written rest).takeWhile (!isMark ·) = last.body ∧
            (last.body ++ written rest).dropWhile (!isMark ·) = written rest :=
        takeWhile_dropWhile_append (fun c hc => by simp [hlast.isMark_eq_false hc])
          fun c hc => by simp [isMark_of_mem_head? hc]
      have hbody : step.body = other.body := by
        rw [← (hcut hstep steps).1, htail, (hcut hother others).1]
      have hrest : written steps = written others := by
        rw [← (hcut hstep steps).2, htail, (hcut hother others).2]
      rw [eq_of_mark_of_body hmark hbody, ih hsteps hothers hrest]

/-- Behind a path a step is written with its mark. -/
theorem toList_extend {path : String} (hpath : path ≠ "") (step : Step) :
    (step.extend path).toList = path.toList ++ step.mark :: step.body := by
  cases step with
  | key name =>
    have hempty : path.isEmpty = false := by simpa using hpath
    simp [extend, hempty, mark, body]
  | index place =>
    have hextend : (index place).extend path = path ++ "[" ++ toString place ++ "]" := rfl
    simp [hextend, mark, body]

end Step

open Step (written written_inj)

/-- Steps are written behind a path one after the other. -/
theorem toList_renderPath {path : String} (hpath : path ≠ "") (steps : List Step) :
    (renderPath path steps).toList = path.toList ++ written steps := by
  induction steps generalizing path with
  | nil => simp [renderPath]
  | cons step rest ih =>
    have hlonger : step.extend path ≠ "" := by
      rw [← String.toList_inj.ne, Step.toList_extend hpath]
      simp
    have hrest : (renderPath path (step :: rest)).toList =
        (step.extend path).toList ++ written rest := ih hlonger
    rw [hrest, Step.toList_extend hpath, Step.written_cons, List.append_assoc, List.cons_append]

/-- A written place below a root without a name, with the mark that a leading key lacks. -/
def marked : List Char → List Char
  | [] => []
  | c :: rest => if c = '[' then c :: rest else '.' :: c :: rest

/-- Below a root without a name, only the mark of a leading key is left out. -/
theorem marked_renderPath {place : List Step} (hplain : ∀ step ∈ place, step.IsPlain) :
    marked (renderPath "" place).toList = written place := by
  cases place with
  | nil => rfl
  | cons step rest =>
    have hstep := (List.forall_mem_cons.mp hplain).1
    cases step with
    | key name =>
      have htext : (renderPath "" (.key name :: rest)).toList = name.toList ++ written rest :=
        toList_renderPath hstep.1 rest
      obtain ⟨c, others, hname⟩ : ∃ c others, name.toList = c :: others :=
        List.exists_cons_of_ne_nil (by simpa using hstep.1)
      have hbracket : c ≠ '[' := by
        rintro rfl
        exact hstep.2.2 (hname ▸ List.mem_cons_self)
      rw [htext, hname, List.cons_append, marked, if_neg hbracket, Step.written_cons, Step.body,
        hname]
      rfl
    | index place =>
      have hpath : Step.extend "" (.index place) = "[" ++ toString place ++ "]" := rfl
      have hne : Step.extend "" (.index place) ≠ "" := by
        rw [hpath, ← String.toList_inj.ne]
        simp
      have htext : (renderPath "" (.index place :: rest)).toList =
          (Step.extend "" (.index place)).toList ++ written rest := toList_renderPath hne rest
      rw [htext, hpath]
      simp [marked, Step.mark, Step.body]

/-- **Reading places.** Below one root, different plain places are written differently. -/
theorem renderPath_inj (root : String) {place other : List Step}
    (hplace : ∀ step ∈ place, step.IsPlain) (hother : ∀ step ∈ other, step.IsPlain)
    (hpath : renderPath root place = renderPath root other) : place = other := by
  refine written_inj hplace hother ?_
  by_cases hroot : root = ""
  · subst hroot
    rw [← marked_renderPath hplace, ← marked_renderPath hother, hpath]
  · have hchars := congrArg String.toList hpath
    rw [toList_renderPath hroot, toList_renderPath hroot] at hchars
    exact List.append_cancel_left hchars

namespace Walk

/-- The places of the records that a walk leads to, with that of the stop as the last one. -/
def places (walk : Walk) : List (List Step) := walk.findings.map Finding.steps ++ walk.stop.toList

/-- The paths of the records are the written places. -/
theorem map_path_collect (walk : Walk) (root : String) (limit : Nat) :
    (walk.collect root limit).map Record.path = walk.places.map (renderPath root) := by
  simp [collect, places, Finding.record, DepthExceeded.record, Function.comp_def]

/-- From further up, all places lie one step further in. -/
theorem places_under (step : Step) (walk : Walk) :
    (walk.under step).places = walk.places.map (step :: ·) := by
  cases hstop : walk.stop <;> simp [places, hstop, Finding.under, Function.comp_def]

/-- The places of two walks one after the other are among those of both. -/
theorem places_followedBy (first second : Walk) :
    (first.followedBy second).places.Sublist (first.places ++ second.places) := by
  cases hstop : first.stop with
  | none =>
    rw [followedBy_of_stop_eq_none hstop]
    simp [places, hstop]
  | some place =>
    rw [followedBy_of_stop_eq_some hstop]
    exact List.sublist_append_left _ _

/-- In a sequence of walks of parts, each place begins with the step to one of the parts. -/
theorem exists_eq_cons_of_mem_places {α : Type} {parts : List α} {step : α → Step}
    {walk : α → Walk} {place : List Step}
    (hplace : place ∈ (sequence (parts.map fun part => (walk part).under (step part))).places) :
    ∃ part ∈ parts, ∃ inner, place = step part :: inner := by
  induction parts with
  | nil => contradiction
  | cons part rest ih =>
    rcases List.mem_append.mp ((places_followedBy _ _).subset hplace) with hfirst | hrest
    · rw [places_under] at hfirst
      obtain ⟨inner, _, rfl⟩ := List.mem_map.mp hfirst
      exact ⟨part, List.mem_cons_self, inner, rfl⟩
    · obtain ⟨other, hother, hinner⟩ := ih hrest
      exact ⟨other, List.mem_cons_of_mem _ hother, hinner⟩

/-- No two records of a walk have the same place, and all places are plain. -/
structure IsUnambiguous (walk : Walk) : Prop where
  nodup : walk.places.Nodup
  plain : ∀ place ∈ walk.places, ∀ step ∈ place, step.IsPlain

namespace IsUnambiguous

/-- One record, or none, at the value itself. -/
theorem of_places_sublist {walk : Walk} (h : walk.places.Sublist [[]]) : walk.IsUnambiguous := by
  refine ⟨(List.nodup_singleton _).sublist h, fun place hplace => ?_⟩
  obtain rfl := List.mem_singleton.mp (h.subset hplace)
  simp

theorem clean : clean.IsUnambiguous := of_places_sublist (by simp [places])

theorem problem (p : Problem) : (problem p).IsUnambiguous := of_places_sublist (by simp [places])

theorem halted : halted.IsUnambiguous := of_places_sublist (by simp [places])

theorem problemIf (condition : Bool) (p : Problem) : (problemIf condition p).IsUnambiguous := by
  cases condition with
  | false => exact clean
  | true => exact problem p

/-- A rule finds at most one thing. -/
theorem of_isRule {walk : Walk} (h : walk.IsRule) : walk.IsUnambiguous := by
  rcases h with rfl | ⟨p, rfl, _⟩
  · exact clean
  · exact problem p

/-- Of a walk that was given up only the stop. -/
theorem stop {walk : Walk} {place : List Step} (h : walk.IsUnambiguous)
    (hstop : walk.stop = some place) : (Walk.mk [] (some place)).IsUnambiguous := by
  constructor
  · simp [places]
  · have hmem : place ∈ walk.places := by simp [places, hstop]
    simpa [places] using h.plain place hmem

theorem under {walk : Walk} {step : Step} (h : walk.IsUnambiguous) (hstep : step.IsPlain) :
    (walk.under step).IsUnambiguous := by
  constructor
  · rw [places_under]
    exact h.nodup.map List.cons_injective
  · rw [places_under, List.forall_mem_map]
    exact fun place hplace => List.forall_mem_cons.mpr ⟨hstep, h.plain place hplace⟩

/-- Two walks whose places differ. -/
theorem followedBy {first second : Walk} (hfirst : first.IsUnambiguous)
    (hsecond : second.IsUnambiguous) (hdisjoint : first.places.Disjoint second.places) :
    (first.followedBy second).IsUnambiguous := by
  have hsub := places_followedBy first second
  refine ⟨(hfirst.nodup.append hsecond.nodup hdisjoint).sublist hsub, fun place hplace => ?_⟩
  rcases List.mem_append.mp (hsub.subset hplace) with hmem | hmem
  · exact hfirst.plain place hmem
  · exact hsecond.plain place hmem

/-- The walks of parts to which different plain steps lead. -/
theorem sequence_under {α : Type} {parts : List α} {step : α → Step} {walk : α → Walk}
    (hsteps : (parts.map step).Nodup) (hplain : ∀ part ∈ parts, (step part).IsPlain)
    (hwalks : ∀ part ∈ parts, (walk part).IsUnambiguous) :
    (sequence (parts.map fun part => (walk part).under (step part))).IsUnambiguous := by
  induction parts with
  | nil => exact clean
  | cons part rest ih =>
    obtain ⟨hnew, hsteps⟩ := List.nodup_cons.mp hsteps
    obtain ⟨hpart, hplain⟩ := List.forall_mem_cons.mp hplain
    obtain ⟨hwalk, hwalks⟩ := List.forall_mem_cons.mp hwalks
    refine (hwalk.under hpart).followedBy (ih hsteps hplain hwalks) fun place hfirst hrest => ?_
    obtain ⟨other, hother, inner, rfl⟩ := exists_eq_cons_of_mem_places hrest
    rw [places_under] at hfirst
    obtain ⟨_, _, hsame⟩ := List.mem_map.mp hfirst
    exact hnew (List.mem_map.mpr ⟨other, hother, (List.cons.inj hsame).1.symm⟩)

end IsUnambiguous

end Walk

namespace Value

/-- No key of an object is empty or has a character that begins a step. -/
def HasPlainKeys : Value → Prop
  | object entries => ∀ key ∈ Entries.keys entries, (Step.key key).IsPlain
  | _ => True

end Value

namespace Checker

open Walk

variable {check : Checker} {checks : List Checker} {levels count : Nat} {value : Value}

theorem isUnambiguous_guarded (hcheck : ∀ below, (check below value).IsUnambiguous) :
    (guarded check levels value).IsUnambiguous := by
  unfold guarded
  split
  · exact .clean
  · cases levels with
    | zero => exact .halted
    | succ below => exact hcheck below

/-- A number of items that is too small for one bound is not too great for the other one. -/
theorem isUnambiguous_countFindings {least most : Option UInt64} (found : Nat)
    (hcounts : ∀ a ∈ least, ∀ b ∈ most, a ≤ b) :
    (Walk.mk (countFindings least most found) none).IsUnambiguous := by
  refine .of_places_sublist ?_
  cases hfew : least.filter fun least => decide (found < least.toNat) with
  | none => cases hmany : most.filter fun most => decide (most.toNat < found) <;>
      simp [places, countFindings, hfew, hmany]
  | some a =>
    cases hmany : most.filter fun most => decide (most.toNat < found) with
    | none => simp [places, countFindings, hfew, hmany]
    | some b =>
      obtain ⟨ha, hless⟩ := Option.filter_eq_some_iff.mp hfew
      obtain ⟨hb, hmore⟩ := Option.filter_eq_some_iff.mp hmany
      have hle := UInt64.le_iff_toNat_le.mp (hcounts a ha b hb)
      simp only [decide_eq_true_eq] at hless hmore
      omega

/-- What is wrong with items lies further in than what is wrong with their number. -/
theorem isUnambiguous_array {least most : Option UInt64} {values : List Value}
    (hcounts : ∀ a ∈ least, ∀ b ∈ most, a ≤ b)
    (hitems : ∀ item ∈ values, (check levels item).IsUnambiguous) :
    (array check least most levels values).IsUnambiguous := by
  rw [array_eq_followedBy, items_eq_sequence]
  refine (isUnambiguous_countFindings _ hcounts).followedBy
    (.sequence_under (Step.nodup_indices values) (fun _ _ => trivial) fun item hitem => ?_)
    fun place hown hinner => ?_
  · exact hitems _ (List.fst_mem_of_mem_zipIdx hitem)
  · obtain ⟨_, _, inner, rfl⟩ := exists_eq_cons_of_mem_places hinner
    simp [places, countFindings] at hown

/-- A key that is missing is not that of an entry. -/
theorem isUnambiguous_object {properties : List (String × Checker)} {required : List String}
    {refuse : Bool} {bag : PropertyBag} (hrequired : required.Nodup)
    (hplainRequired : ∀ key ∈ required, (Step.key key).IsPlain)
    (hkeys : (Entries.keys bag).Nodup) (hplain : ∀ key ∈ Entries.keys bag, (Step.key key).IsPlain)
    (hentries : ∀ child ∈ bag, ∀ check, properties.lookup child.1 = some check →
      (check levels child.2).IsUnambiguous) :
    (object properties required refuse levels bag).IsUnambiguous := by
  have hmissing : (missing required bag).IsUnambiguous :=
    .sequence_under (hrequired.map fun _ _ => Step.key.inj) hplainRequired
      fun _ _ => .problemIf _ _
  have hentry : (entries properties refuse levels bag).IsUnambiguous := by
    rw [entries_eq_sequence]
    refine .sequence_under (Step.nodup_keys hkeys)
      (fun child hchild => hplain _ (List.mem_map_of_mem hchild)) fun child hchild => ?_
    unfold entryValue
    cases hlookup : properties.lookup child.1 with
    | none => exact .problemIf _ _
    | some check => exact hentries child hchild check hlookup
  refine hmissing.followedBy hentry fun place hfirst hrest => ?_
  rw [entries_eq_sequence] at hrest
  obtain ⟨child, hchild, inner, rfl⟩ := exists_eq_cons_of_mem_places hrest
  rw [missing_eq] at hfirst
  have hpresent : child.1 ∈ Entries.keys bag := List.mem_map_of_mem hchild
  simp only [places, missingFindings, Option.toList_none, List.append_nil, List.map_map,
    List.mem_map, List.mem_filter] at hfirst
  obtain ⟨key, ⟨_, habsent⟩, hsame⟩ := hfirst
  obtain rfl : key = child.1 := Step.key.inj (List.cons.inj hsame).1
  simp [Entries.hasKey, hpresent] at habsent

/-- Of a union there is one record at most, or the stop in one of its branches. -/
theorem isUnambiguous_anyOf (hchecks : ∀ check ∈ checks, (check levels value).IsUnambiguous) :
    (anyOf count levels value checks).IsUnambiguous := by
  induction checks with
  | nil => exact .problem _
  | cons check rest ih =>
    obtain ⟨hcheck, hrest⟩ := List.forall_mem_cons.mp hchecks
    simp only [anyOf]
    cases hstop : (check levels value).stop with
    | some place => exact hcheck.stop hstop
    | none =>
      by_cases hempty : (check levels value).findings.isEmpty = true
      · simp only [hempty, if_true]
        exact .clean
      · simpa only [hempty, Bool.false_eq_true, if_false] using ih hrest

/-- Of an exclusive union there is one record at most, or the stop in one of its branches. -/
theorem isUnambiguous_oneOf {matched : Nat}
    (hchecks : ∀ check ∈ checks, (check levels value).IsUnambiguous) :
    (oneOf count matched levels value checks).IsUnambiguous := by
  induction checks generalizing matched with
  | nil =>
    rcases matched with _ | _ | matched
    · exact .problem _
    · exact .clean
    · exact .problem _
  | cons check rest ih =>
    obtain ⟨hcheck, hrest⟩ := List.forall_mem_cons.mp hchecks
    simp only [oneOf]
    cases hstop : (check levels value).stop with
    | some place => exact hcheck.stop hstop
    | none => exact ih hrest

end Checker

namespace Schema

section

variable [PatternEngine] {schema : Schema} {value : Value}

/-- No key that a schema requires is empty or has a character that begins a step. -/
def RequiresPlainKeys : Schema → Prop
  | object _ required _ => ∀ key ∈ required, (Step.key key).IsPlain
  | _ => True

/-- An array schema does not ask for more items than it allows. -/
def HasOrderedCounts : Schema → Prop
  | array _ least most => ∀ a ∈ least, ∀ b ∈ most, a ≤ b
  | _ => True

/-- The records of a walk have different places, whether it ends or is given up. -/
theorem walk_isUnambiguous {strict : Bool} {levels : Nat} (hdistinct : value.DistinctKeys)
    (hkeys : value.Everywhere Value.HasPlainKeys) (hschema : schema.DistinctKeys)
    (hrequired : schema.Everywhere RequiresPlainKeys)
    (hcounts : schema.Everywhere HasOrderedCounts) :
    (schema.walk strict levels value).IsUnambiguous := by
  induction schema generalizing levels value with
  | any => exact Checker.isUnambiguous_guarded fun _ => .clean
  | primitive kind => exact Checker.isUnambiguous_guarded fun _ => .problemIf _ _
  | enumeration values => exact Checker.isUnambiguous_guarded fun _ => .problemIf _ _
  | pattern form =>
    exact Checker.isUnambiguous_guarded fun _ => .of_isRule (walkPattern_isRule form value)
  | range min max integer =>
    exact Checker.isUnambiguous_guarded fun _ => .of_isRule (walkRange_isRule min max integer value)
  | array items least most ih =>
    refine Checker.isUnambiguous_guarded fun below => ?_
    cases value with
    | array values =>
      exact Checker.isUnambiguous_array hcounts.self fun item hitem =>
        ih (hdistinct.item hitem) (hkeys.item hitem) hschema.items hrequired.items hcounts.items
    | _ => exact .problem _
  | object properties required additional ih =>
    refine Checker.isUnambiguous_guarded fun below => ?_
    cases value with
    | object entries =>
      refine Checker.isUnambiguous_object hschema.self.2 hrequired.self hdistinct.self hkeys.self
        fun child hchild check hcheck => ?_
      obtain ⟨declared, hdeclared, rfl⟩ := lookup_walkProperties_eq_some_iff.mp hcheck
      have hmem := Entries.mem_of_lookup hdeclared
      exact ih _ hmem (hdistinct.entry hchild) (hkeys.entry hchild) (hschema.property hmem)
        (hrequired.property hmem) (hcounts.property hmem)
    | _ => exact .problem _
  | anyOf branches ih =>
    refine Checker.isUnambiguous_guarded fun below => Checker.isUnambiguous_anyOf ?_
    rw [walkBranches_eq_map, List.forall_mem_map]
    exact fun branch hbranch => ih branch hbranch hdistinct hkeys (hschema.anyOf hbranch)
      (hrequired.anyOf hbranch) (hcounts.anyOf hbranch)
  | oneOf branches ih =>
    refine Checker.isUnambiguous_guarded fun below => Checker.isUnambiguous_oneOf ?_
    rw [walkBranches_eq_map, List.forall_mem_map]
    exact fun branch hbranch => ih branch hbranch hdistinct hkeys (hschema.oneOf hbranch)
      (hrequired.oneOf hbranch) (hcounts.oneOf hbranch)

/--
**A path says where.** If no object key of a value and no required key is empty or has a dot or an
opening bracket in it, and no array schema asks for more items than it allows, then no two records
of the value have one path, below every root and with every limit.
-/
theorem record_paths_are_distinct (hdistinct : value.DistinctKeys)
    (hkeys : value.Everywhere Value.HasPlainKeys) (hschema : schema.DistinctKeys)
    (hrequired : schema.Everywhere RequiresPlainKeys)
    (hcounts : schema.Everywhere HasOrderedCounts) (options : ValidationOptions) (root : String) :
    ((schema.validate options root value).map Record.path).Nodup := by
  obtain ⟨hnodup, hplain⟩ : (schema.walkValue options value).IsUnambiguous :=
    walk_isUnambiguous hdistinct hkeys hschema hrequired hcounts
  rw [validate, Walk.map_path_collect]
  exact hnodup.map_on fun place hplace other hother =>
    renderPath_inj root (hplain place hplace) (hplain other hother)

end

/-- A missing key, a refused one, too few items and the stop below the limit, each at its place. -/
theorem record_paths_of_bag_are_distinct :
    let schema := object [("sizes", array (primitive .number) (some 2) (some 3))] ["id"] .reject
    let value := Value.object [("extra", .int 1), ("sizes", .array [.bool true])]
    value.DistinctKeys ∧ value.Everywhere Value.HasPlainKeys ∧ schema.DistinctKeys ∧
      schema.Everywhere RequiresPlainKeys ∧ schema.Everywhere HasOrderedCounts ∧
      (schema.validate ⟨true, 1⟩ "" value).map Record.path =
        ["id", "extra", "sizes", "sizes[0]"] ∧
      ["id", "extra", "sizes", "sizes[0]"].Nodup := by
  intro schema value
  have hdistinct : value.DistinctKeys := by
    simp [value, Value.DistinctKeys, Value.HasDistinctKeys, Entries.keys]
  have hkeys : value.Everywhere Value.HasPlainKeys := by
    simp [value, Value.HasPlainKeys, Entries.keys, Step.IsPlain]
  have hnumber (holds : Schema → Prop) :
      (primitive .number).Everywhere holds ↔ holds (primitive .number) :=
    everywhere_of_height_eq_zero rfl
  have hschema : schema.DistinctKeys := by
    simp [schema, DistinctKeys, everywhere_object, everywhere_array, hnumber, HasDistinctKeys,
      Entries.keys]
  have hrequired : schema.Everywhere RequiresPlainKeys := by
    simp [schema, everywhere_object, everywhere_array, hnumber, RequiresPlainKeys,
      Step.IsPlain]
  have hcounts : schema.Everywhere HasOrderedCounts := by
    simp [schema, everywhere_object, everywhere_array, hnumber, HasOrderedCounts]
  have hpaths : (schema.validate ⟨true, 1⟩ "" value).map Record.path =
      ["id", "extra", "sizes", "sizes[0]"] := rfl
  have hnodup := record_paths_are_distinct hdistinct hkeys hschema hrequired hcounts ⟨true, 1⟩ ""
  exact ⟨hdistinct, hkeys, hschema, hrequired, hcounts, hpaths, hpaths ▸ hnodup⟩

/-- A dot in a key makes two places look alike. -/
example :
    let inner := object [] ["b"] .allow
    ((object [("a", inner), ("a.b", number)] [] .allow).validate ⟨true, 128⟩ "root"
      (.object [("a", .object []), ("a.b", .bool true)])).map Record.path =
        ["root.a.b", "root.a.b"] := rfl

end Schema

end ControlProps
