import ControlProps.Documents.Sources
import ControlProps.Files.Workspace
import ControlProps.Proofs.Json.Parts
import ControlProps.Proofs.Pairing
import ControlProps.Query.Reader

/-!
# Loading documents

A source that is read line by line holds as many texts of JSON values as it has lines that are not
blank; any other source holds one. Each of these texts contributes the documents that the selection
takes from its value. All documents are those of the first text, then those of the second, and so
on: nothing is left out, repeated or moved.
-/

namespace ControlProps

namespace Source

/-! ### Lines -/

/-- A text and its lines, which end in a newline or in a return and a newline; what is behind the
last end is a line as well, unless nothing is. -/
inductive HasLines : List Char → List (List Char) → Prop where
  | nil : HasLines [] []
  | last {line : List Char} : line ≠ [] → '\n' ∉ line → HasLines line [line]
  | newline {line text : List Char} {lines : List (List Char)} : '\n' ∉ line →
    line.getLast? ≠ some '\r' → HasLines text lines →
    HasLines (line ++ '\n' :: text) (line :: lines)
  | returnNewline {line text : List Char} {lines : List (List Char)} : '\n' ∉ line →
    HasLines text lines → HasLines (line ++ '\r' :: '\n' :: text) (line :: lines)

variable {line text : List Char}

/-- A return at the end of a line is taken off. -/
theorem withoutReturn_append : lines.withoutReturn (line ++ ['\r']) = line := by
  simp [lines.withoutReturn]

/-- Without a return at its end a line stays as it is. -/
theorem withoutReturn_of_ne (hline : line.getLast? ≠ some '\r') :
    lines.withoutReturn line = line := by
  rw [lines.withoutReturn]
  split
  · rename_i rest hreverse
    have hlast : line.getLast? = some '\r' := by
      rw [← List.head?_reverse, hreverse, List.head?_cons]
    exact absurd hlast hline
  · rfl

/-- A text without newlines is one line, if it is not empty. -/
theorem lines_of_notMem (hsome : text ≠ []) (htext : '\n' ∉ text) : lines text = [text] := by
  have hparts : partsBetween '\n' text = [text] := by
    have h := partsBetween_flatMap htext (List.forall_mem_nil _)
    rwa [List.flatMap_nil, List.append_nil] at h
  simp [lines, hparts, hsome]

/-- What is in front of the first newline is a line, and the others are behind it. -/
theorem lines_append_newline (hline : '\n' ∉ line) :
    lines (line ++ '\n' :: text) = lines.withoutReturn line :: lines text := by
  have hparts : partsBetween '\n' (line ++ '\n' :: text) = line :: partsBetween '\n' text := by
    rw [partsBetween, partsFrom_append hline, partsFrom, if_pos rfl, List.append_nil,
      List.reverse_reverse, partsBetween]
  obtain ⟨ended, last, hrest⟩ : ∃ ended last, partsBetween '\n' text = ended ++ [last] :=
    ⟨_, _, (List.dropLast_append_getLast partsFrom_ne_nil).symm⟩
  simp [lines, hparts, hrest]

/-- Every text has lines. -/
theorem exists_hasLines (text : List Char) : ∃ found, HasLines text found := by
  induction hlength : text.length using Nat.strongRecOn generalizing text with
  | ind length ih =>
    by_cases hnewline : '\n' ∈ text
    · obtain ⟨line, rest, rfl, hline⟩ := List.eq_append_cons_of_mem hnewline
      obtain ⟨found, hfound⟩ := ih rest.length (by simp [← hlength]; omega) rest rfl
      by_cases hreturn : line.getLast? = some '\r'
      · obtain ⟨line, rfl⟩ := List.getLast?_eq_some_iff.mp hreturn
        refine ⟨line :: found, ?_⟩
        rw [List.append_assoc, List.singleton_append]
        exact .returnNewline (fun h => hline (List.mem_append_left _ h)) hfound
      · exact ⟨line :: found, .newline hline hreturn hfound⟩
    · by_cases hempty : text = []
      · exact ⟨[], hempty ▸ .nil⟩
      · exact ⟨[text], .last hempty hnewline⟩

/-- A text is cut into its lines. -/
theorem hasLines_iff {found : List (List Char)} : HasLines text found ↔ lines text = found := by
  have hlines {text : List Char} {found : List (List Char)} (h : HasLines text found) :
      lines text = found := by
    induction h with
    | nil => rfl
    | last hsome hline => exact lines_of_notMem hsome hline
    | newline hline hreturn _ ih =>
      rw [lines_append_newline hline, withoutReturn_of_ne hreturn, ih]
    | @returnNewline line text _ hnewline _ ih =>
      have hended : '\n' ∉ line ++ ['\r'] := by simp [hnewline]
      have hline : lines (line ++ '\r' :: '\n' :: text) =
          lines.withoutReturn (line ++ ['\r']) :: lines text := by
        rw [← lines_append_newline hended, List.append_assoc, List.singleton_append]
      rw [hline, withoutReturn_append, ih]
  refine ⟨hlines, ?_⟩
  rintro rfl
  obtain ⟨found, hfound⟩ := exists_hasLines text
  rwa [hlines hfound]

/-! ### Texts of values -/

/-- The texts in a source that have to be JSON values, with their labels. The lines are counted from
one, and blank lines count as well. -/
def valueTexts (byLine : Bool) (source : Source) : List (String × String) :=
  if byLine then
    (((lines source.text.toList).zipIdx 1).filter fun line => !(trimBlanks line.1).isEmpty).map
      fun line => (s!"{source.label}:{line.2}", String.ofList line.1)
  else [(source.label, source.text)]

/-- What is left of numbered lines without the blank ones. -/
theorem numbered_eq (number : Nat) (found : List (List Char)) :
    numbered number found =
      ((found.zipIdx number).filter fun line => !(trimBlanks line.1).isEmpty).map Prod.swap := by
  induction found generalizing number with
  | nil => rfl
  | cons line rest ih =>
    rw [numbered, ih, List.zipIdx_cons, List.filter_cons]
    by_cases hblank : (trimBlanks line).isEmpty = true <;> simp [hblank]

/-- Whether a labelled value is that of a text with a label. -/
def IsValueOf (labelled : Labelled) (text : String × String) : Prop :=
  labelled.1 = text.1 ∧ Json.parse text.2 = .ok labelled.2

/-- A value on a line is that of the line, under the label of the source and its number. -/
theorem valueOfLine_eq_ok_iff {source : Source} {line : Nat × List Char} {labelled : Labelled} :
    source.valueOfLine line = .ok labelled ↔
      IsValueOf labelled (s!"{source.label}:{line.1}", String.ofList line.2) := by
  obtain ⟨label, value⟩ := labelled
  unfold valueOfLine IsValueOf
  cases Json.parse (String.ofList line.2) with
  | ok found =>
    simp only [Except.ok.injEq, Prod.mk.injEq]
    exact and_congr_left' eq_comm
  | error cause => simp

/-- The values of a source are those of its texts. -/
theorem values_eq_ok_iff {source : Source} {byLine : Bool} {found : List Labelled} :
    source.values byLine = .ok found ↔
      List.Forall₂ (fun text labelled => IsValueOf labelled text) (source.valueTexts byLine)
        found := by
  cases byLine with
  | true =>
    rw [values, if_pos rfl, mapM_eq_ok_iff, numbered_eq, valueTexts, if_pos rfl,
      List.forall₂_map_left_iff, List.forall₂_map_left_iff]
    simp only [valueOfLine_eq_ok_iff, Prod.fst_swap, Prod.snd_swap]
  | false =>
    rw [values, if_neg Bool.false_ne_true, valueTexts, if_neg Bool.false_ne_true,
      List.forall₂_cons_left_iff]
    simp only [List.forall₂_nil_left_iff, IsValueOf]
    cases Json.parse source.text with
    | ok value =>
      constructor
      · intro h
        exact ⟨_, [], ⟨rfl, rfl⟩, rfl, (Except.ok.inj h).symm⟩
      · rintro ⟨⟨_, _⟩, _, ⟨rfl, ⟨⟩⟩, rfl, rfl⟩
        rfl
    | error cause => simp

end Source

namespace Selection

variable {selection : Selection}

/-! ### Documents of values -/

/-- Whether this is the part that is taken of a value: all of it, or what the pointer leads to. -/
def Selects (selection : Selection) (value part : Json) : Prop :=
  match selection.pointer with
  | none => part = value
  | some text => ∃ pointer, Pointer.ofText? text = some pointer ∧ pointer.resolve? value = some part

/-- Whether these are the answers about a part: the part itself, or those that the query gives. -/
def Answers (selection : Selection) (part : Json) (answers : List Json) : Prop :=
  match selection.query with
  | none => answers = [part]
  | some query => query part = .ok answers

/-- Whether a text is a JSON value of which something is selected that has these answers. -/
def Takes (selection : Selection) (text : String) (answers : List Json) : Prop :=
  ∃ value part, Json.parse text = .ok value ∧ selection.Selects value part ∧
    selection.Answers part answers

/-- The documents for answers under a label; if there are several, it is followed by the number of
each, from zero on. -/
def answerDocuments (label : String) (answers : List Json) : List Document :=
  answers.mapIdx fun number answer =>
    ⟨if 1 < answers.length then s!"{label}#{number}" else label, answer⟩

/-- Whether these are the documents that are taken from a text with a label. -/
def Contributes (selection : Selection) (text : String × String) (documents : List Document) :
    Prop :=
  ∃ answers, selection.Takes text.2 answers ∧ documents = answerDocuments text.1 answers

/-- Without a pointer and a query a text gives its value under its label. -/
theorem contributes_of_parse {byLine : Bool} {label text : String} {value : Json}
    (hparse : Json.parse text = .ok value) :
    Contributes ⟨byLine, none, none⟩ (label, text) [⟨label, value⟩] :=
  ⟨[value], ⟨value, value, hparse, rfl, rfl⟩, rfl⟩

/-- The part of a value is what is selected of it. -/
theorem part_eq_ok_iff {labelled : Labelled} {part : Json} :
    selection.part labelled = .ok part ↔ selection.Selects labelled.2 part := by
  unfold Selection.part Selects
  cases selection.pointer with
  | none => exact (Except.ok.injEq _ _).to_iff.trans eq_comm
  | some text =>
    simp only [← Option.bind_eq_some_iff]
    cases (Pointer.ofText? text).bind fun pointer => pointer.resolve? labelled.2 <;> simp

/-- Answers are labelled one by one. -/
theorem label_eq (source : String) (answers : List Json) :
    label source answers = answerDocuments source answers := by
  match answers with
  | [] | [_] | _ :: _ :: _ => simp [label, answerDocuments]

/-- The documents of a value are those for the answers about its part. -/
theorem documentsOf_eq_ok_iff {labelled : Labelled} {documents : List Document} :
    selection.documentsOf labelled = .ok documents ↔
      ∃ part answers, selection.Selects labelled.2 part ∧ selection.Answers part answers ∧
        documents = answerDocuments labelled.1 answers := by
  simp only [← part_eq_ok_iff]
  unfold documentsOf Answers
  cases selection.part labelled with
  | error cause => simp
  | ok part =>
    cases selection.query with
    | none => simp [answerDocuments, eq_comm]
    | some query => cases hquery : query part <;> simp [hquery, label_eq, eq_comm]

/-- The documents of a source are those of its texts, one after the other. -/
theorem documents_eq_ok_iff {source : Source} {documents : List Document} :
    selection.documents source = .ok documents ↔
      ∃ groups, List.Forall₂ selection.Contributes (source.valueTexts selection.byLine) groups ∧
        documents = groups.flatten := by
  have hcontributes {text : String × String} {group : List Document} :
      (∃ labelled, Source.IsValueOf labelled text ∧ selection.documentsOf labelled = .ok group) ↔
        selection.Contributes text group := by
    simp only [documentsOf_eq_ok_iff]
    constructor
    · rintro ⟨labelled, ⟨hlabel, hvalue⟩, part, answers, hpart, hanswers, rfl⟩
      exact ⟨answers, ⟨labelled.2, part, hvalue, hpart, hanswers⟩, by rw [hlabel]⟩
    · rintro ⟨answers, ⟨value, part, hvalue, hpart, hanswers⟩, rfl⟩
      exact ⟨(text.1, value), ⟨rfl, hvalue⟩, part, answers, hpart, hanswers, rfl⟩
  unfold Selection.documents
  simp only [bind_eq_ok_iff, pure_eq_ok_iff, Source.values_eq_ok_iff, mapM_eq_ok_iff]
  constructor
  · rintro ⟨found, hfound, groups, hgroups, rfl⟩
    refine ⟨groups, ?_, rfl⟩
    exact (exists_forall₂_comp_iff.mp ⟨found, hfound, hgroups⟩).imp fun _ _ => hcontributes.mp
  · rintro ⟨groups, hgroups, rfl⟩
    obtain ⟨found, hfound, hgroups⟩ :=
      exists_forall₂_comp_iff.mpr (hgroups.imp fun _ _ => hcontributes.mpr)
    exact ⟨found, hfound, groups, hgroups, rfl⟩

/-- Sources that could be read give documents if each of them does. -/
theorem load_eq_ok_iff_documents {sources : List Source} {documents : List Document} :
    selection.load (sources.map .ok) = .ok documents ↔
      ∃ loaded, List.Forall₂ (fun source own => selection.documents source = .ok own) sources
        loaded ∧ loaded.flatten = documents := by
  rw [Selection.load, List.mapM_map]
  simp only [bind_eq_ok_iff, pure_eq_ok_iff]
  exact exists_congr fun loaded => and_congr_left' mapM_eq_ok_iff

/-- The documents of several sources are those of their texts, one after the other. -/
theorem load_eq_ok_iff {sources : List Source} {documents : List Document} :
    selection.load (sources.map .ok) = .ok documents ↔
      ∃ groups, List.Forall₂ selection.Contributes
          (sources.flatMap (Source.valueTexts selection.byLine)) groups ∧
        documents = groups.flatten := by
  rw [load_eq_ok_iff_documents]
  constructor
  · rintro ⟨loaded, hloaded, rfl⟩
    induction hloaded with
    | nil => exact ⟨[], .nil, rfl⟩
    | cons hfirst _ ih =>
      obtain ⟨groups, hgroups, rfl⟩ := documents_eq_ok_iff.mp hfirst
      obtain ⟨others, hothers, hrest⟩ := ih
      refine ⟨groups ++ others, List.rel_append hgroups hothers, ?_⟩
      rw [List.flatten_cons, hrest, List.flatten_append]
  · rintro ⟨groups, hgroups, rfl⟩
    induction sources generalizing groups with
    | nil =>
      cases hgroups
      exact ⟨[], .nil, rfl⟩
    | cons source rest ih =>
      obtain ⟨own, others, hown, hothers, rfl⟩ := forall₂_append_left_iff.mp hgroups
      obtain ⟨loaded, hloaded, hrest⟩ := ih others hothers
      refine ⟨own.flatten :: loaded, .cons (documents_eq_ok_iff.mpr ⟨own, hown, rfl⟩) hloaded, ?_⟩
      rw [List.flatten_cons, hrest, List.flatten_append]

end Selection

namespace Source

/-! ### Reading -/

variable {σ : Type} {host : Host (StateM σ)}

/-- Whether the host reads these sources at the given paths, one after the other, and goes from one
state to another by that. None of the paths is a pattern; `-` stands for the input. -/
inductive Reads (host : Host (StateM σ)) : List String → List Source → σ → σ → Prop where
  | none {s : σ} : Reads host [] [] s s
  | input {paths : List String} {sources : List Source} {text : String} {s s' t : σ} :
    host.readInput.run s = (.ok text, s') → Reads host paths sources s' t →
    Reads host ("-" :: paths) (⟨"<stdin>", text⟩ :: sources) s t
  | file {path : String} {paths : List String} {sources : List Source} {text : String}
    {s s' t : σ} : path ≠ "-" → Glob.isPattern path = false →
    (host.readText path).run s = (.ok text, s') → Reads host paths sources s' t →
    Reads host (path :: paths) (⟨path, text⟩ :: sources) s t

variable {inputs : List String} {sources : List Source} {s t : σ}

/-- Paths that are no patterns stand for themselves. -/
theorem resolve_of_literal (hliteral : ∀ input ∈ inputs, Glob.isPattern input = false) :
    resolve host inputs = pure (.ok inputs) := by
  induction inputs with
  | nil => rfl
  | cons input rest ih =>
    obtain ⟨hinput, hrest⟩ := List.forall_mem_cons.mp hliteral
    rw [resolve, ih hrest, pathsOf, hinput]
    rfl

/-- Paths that are read are no patterns. -/
theorem Reads.literal (h : Reads host inputs sources s t) :
    ∀ input ∈ inputs, Glob.isPattern input = false := by
  induction h with
  | none => exact List.forall_mem_nil _
  | input _ _ ih => exact List.forall_mem_cons.mpr ⟨by decide, ih⟩
  | file _ hliteral _ _ ih => exact List.forall_mem_cons.mpr ⟨hliteral, ih⟩

/-- Reading one path after the other gives the sources. -/
theorem Reads.mapM_run (h : Reads host inputs sources s t) :
    (inputs.mapM (read host)).run s = (sources.map .ok, t) := by
  induction h with
  | none => rfl
  | @input _ _ text s s' _ hread _ ih =>
    have hfirst : (read host "-").run s = (.ok ⟨"<stdin>", text⟩, s') := by
      rw [read, if_pos (show "-" = inputPath from rfl), StateT.run_bind, hread]
      rfl
    rw [mapM_run_cons, hfirst, ih, List.map_cons]
  | @file path _ _ text s s' _ hpath _ hread _ ih =>
    have hfirst : (read host path).run s = (.ok ⟨path, text⟩, s') := by
      rw [read, if_neg (show ¬path = inputPath from hpath), StateT.run_bind, hread]
      rfl
    rw [mapM_run_cons, hfirst, ih, List.map_cons]

/-- Paths that can be read are read once each, and the selection is made of what they hold. -/
theorem Reads.load_run (h : Reads host inputs sources s t) (selection : Selection) :
    (load host selection inputs).run s = (selection.load (sources.map .ok), t) := by
  rw [load, resolve_of_literal h.literal, pure_bind]
  have hrun : (do return selection.load (← inputs.mapM (read host)) :
      StateM σ (Except LoadError (List Document))).run s =
      (selection.load ((inputs.mapM (read host)).run s).1,
        ((inputs.mapM (read host)).run s).2) := rfl
  exact hrun.trans (by rw [h.mapM_run])

/-- **Loading is exact.** Documents are loaded from sources that can be read if each of their texts,
which with `byLine` are their lines that are not blank, is JSON of which the pointer selects
something that the query answers about. They are the answers about the first text, then those about
the second, and so on, each under the label of its text; only several answers about one text are
told apart by their numbers. -/
theorem loading_is_exact (h : Reads host inputs sources s t) (selection : Selection) :
    let texts := sources.flatMap (valueTexts selection.byLine)
    (∀ source ∈ sources, HasLines source.text.toList (lines source.text.toList)) ∧
    ∃ result, (load host selection inputs).run s = (result, t) ∧
      ((∃ documents, result = .ok documents) ↔
        ∀ text ∈ texts, ∃ answers, selection.Takes text.2 answers) ∧
      ∀ documents, result = .ok documents ↔
        ∃ groups, List.Forall₂ selection.Contributes texts groups ∧
          documents = groups.flatten := by
  intro texts
  refine ⟨fun _ _ => hasLines_iff.mpr rfl, _, h.load_run selection, ?_,
    fun documents => Selection.load_eq_ok_iff⟩
  simp only [Selection.load_eq_ok_iff]
  constructor
  · rintro ⟨_, groups, hgroups, rfl⟩ text htext
    obtain ⟨_, _, answers, hanswers, _⟩ := exists_mem_right_of_forall₂ hgroups htext
    exact ⟨answers, hanswers⟩
  · intro htexts
    have hcontributes : ∀ text ∈ texts, ∃ group, selection.Contributes text group := by
      intro text htext
      obtain ⟨answers, hanswers⟩ := htexts text htext
      exact ⟨_, answers, hanswers, rfl⟩
    obtain ⟨groups, hgroups⟩ := exists_forall₂_iff.mpr hcontributes
    exact ⟨_, groups, hgroups, rfl⟩

/-- Of two sources the items of the first value on each line; one line is blank, one has none. -/
theorem loading_items_of_lines :
    let selection : Selection := ⟨true, some "/0", some (Query.runText ".[]")⟩
    let workspace := Workspace.ofTexts [("bags", "[[1,2]]\n \n[[]]\r\n[[3]]\n")] "[[4]]"
    ((load Workspace.host selection ["bags", "-"]).run workspace).1 =
      .ok [⟨"bags:1#0", .int 1⟩, ⟨"bags:1#1", .int 2⟩, ⟨"bags:4", .int 3⟩,
        ⟨"<stdin>:1", .int 4⟩] := by
  intro selection workspace
  have htext : workspace.readText "bags" = .ok "[[1,2]]\n \n[[]]\r\n[[3]]\n" :=
    toOption_eq_some_iff.mp (by decide +kernel)
  have hfile : (Workspace.host.readText "bags").run workspace =
      (.ok "[[1,2]]\n \n[[]]\r\n[[3]]\n", workspace) :=
    congrArg (·, workspace) htext
  have hinput : Workspace.host.readInput.run workspace =
      (.ok "[[4]]", { workspace with input := "" }) := rfl
  have hreads := Reads.file (by decide) (by decide) hfile (.input hinput .none)
  obtain ⟨_, result, hrun, _, hexact⟩ := loading_is_exact hreads selection
  have htexts : [⟨"bags", "[[1,2]]\n \n[[]]\r\n[[3]]\n"⟩, ⟨"<stdin>", "[[4]]"⟩].flatMap
      (valueTexts true) = [("bags:1", "[[1,2]]"), ("bags:3", "[[]]"), ("bags:4", "[[3]]"),
        ("<stdin>:1", "[[4]]")] := by
    decide +kernel
  have hcontributes {label text : String} {items : List Json}
      (hparse : Json.parse text = .ok (.array [.array items]))
      (hquery : Query.runText ".[]" (.array items) = .ok items) :
      selection.Contributes (label, text) (Selection.answerDocuments label items) :=
    ⟨items, ⟨_, _, hparse, ⟨["0"], rfl, rfl⟩, hquery⟩, rfl⟩
  rw [hrun]
  refine (hexact _).mpr ⟨[Selection.answerDocuments "bags:1" [.int 1, .int 2],
    Selection.answerDocuments "bags:3" [], Selection.answerDocuments "bags:4" [.int 3],
    Selection.answerDocuments "<stdin>:1" [.int 4]], ?_, rfl⟩
  rw [htexts]
  exact .cons (hcontributes rfl rfl) (.cons (hcontributes rfl rfl)
    (.cons (hcontributes rfl rfl) (.cons (hcontributes rfl rfl) .nil)))

end Source

end ControlProps
