import Facade.Config.Document
import Facade.Config.Files
import Facade.Proofs.Documents
import Facade.Proofs.Paths

/-!
# Settings that survive a file

Texts among settings are written between quotes as they are, and read back by the rules of the format.
What comes back is what was written exactly if every such text stands for itself.

* `Choices`: settings as a program makes them; `Choices.settings`, `Choices.texts`.
* `toList_toToml`, `foldlM_lines`: the lines of their document, and the document.
* `ofData_document`: what is read of the document.
* `eq_of_holds`, `ne_of_isCut`: a text that was cut is not the one that was set.
* `load_toToml`: settings survive a file exactly if their texts are plain.
-/

namespace Facade.Config

open Toml

/-- Settings as they are made in a program: words are truth values, names are texts, and a working
directory is an absolute path. -/
structure Choices where
  /-- Modules are written to the working directory. -/
  persist : Bool := true
  /-- The directory of written modules, if one is set. -/
  workingDir : Option String := none
  /-- Warnings count as errors. -/
  warningsAsErrors : Bool := false
  /-- The version that is stamped on modules, if one is set. -/
  version : Option String := none
  /-- The name of a class. -/
  typeName : String := Wrapper.defaultTypeName
  /-- The namespace of a module. -/
  namespaceName : String := Wrapper.defaultNamespaceName
  /-- The name of a method. -/
  methodName : String := Wrapper.defaultMethodName
  /-- Source is kept in the module. -/
  kept : Bool := true
  /-- Source is laid out anew. -/
  prettify : Bool := true
  /-- The least level that is logged. -/
  level : String := "WARNING"
  /-- How log records are written. -/
  format : LogFormat := .text
  /-- The directory is a path from the root, in its clean form. -/
  absolute : ∀ d ∈ workingDir, Path.isAbsolute d = true ∧ Path.clean d = d := by simp

namespace Choices

/-- The settings, with facts that are carried along. -/
def settings (c : Choices) (facts : List (Value × Value)) : Settings where
  compiling :=
    { persist := .bool c.persist
      workingDir := c.workingDir.map fun d => { path := d }
      warningsAsErrors := .bool c.warningsAsErrors
      version := c.version.elim .none .str }
  naming := ⟨.str c.typeName, .str c.namespaceName, .str c.methodName⟩
  embedding := ⟨.bool c.kept, .bool c.prettify⟩
  logging := ⟨.str c.level, c.format⟩
  metadata := facts

/-- The texts among the settings. -/
def texts (c : Choices) : List String :=
  c.workingDir.toList ++ c.version.toList ++ [c.typeName, c.namespaceName, c.methodName, c.level]

/-- The lines of the first section, of which two can be missing. -/
def compilingLines (c : Choices) : List Line :=
  [Line.header "compiler", Line.word "persist" c.persist] ++
    (c.workingDir.map (Line.text workingDirKey)).toList ++
    [Line.word "warnings_as_errors" c.warningsAsErrors] ++ (c.version.map (Line.text "version")).toList

/-- The lines of the document. -/
def lines (c : Choices) : List Line :=
  c.compilingLines ++
    [Line.blank, .header "naming", .text typeNameKey c.typeName, .text namespaceNameKey c.namespaceName,
      .text methodNameKey c.methodName,
      .blank, .header "source", .word "include" c.kept, .word "prettify" c.prettify,
      .blank, .header "logging", .text "level" c.level, .text "format" c.format.word]

variable (c : Choices) (facts : List (Value × Value)) (w : World)

/-! ## The document -/

theorem intercalate_append_nil (ls : List (List Char)) :
    ['\n'].intercalate (ls ++ [[]]) = ls.flatMap (· ++ ['\n']) := by
  induction ls with
  | nil => rfl
  | cons l ls ih =>
    rw [List.flatMap_cons, ← ih]
    cases ls <;> simp [List.intercalate_cons_cons]

theorem toList_textLine (name value : String) :
    (textLine name value).toList = (Line.text name value).written := by
  simp [textLine, Line.written]

theorem toList_wordLine (name : String) (b : Bool) :
    (wordLine w name (.bool b)).toList = (Line.word name b).written := by
  have hword : Text.lowerCase ((Value.bool b).asText w) = if b then "true" else "false" := by
    show Text.lowerCase ((Value.bool b).display w) = _
    unfold Value.display
    cases b <;> decide +kernel
  simp [wordLine, hword, Line.written]

theorem map_toList_sectionLines (name : String) (lines : List String) :
    (sectionLines name lines).map String.toList =
      (Line.header name).written :: lines.map String.toList ++ [[]] := by
  simp [sectionLines, Line.written]

theorem asText_str (s : String) : (Value.str s).asText w = s := by
  unfold Value.asText
  rfl

/-- The document consists of these lines. -/
theorem toList_toToml : ((c.settings facts).toToml w).toList = writtenLines c.lines := by
  have hlines : ((c.settings facts).tomlLines w).map String.toList =
      c.lines.map Line.written ++ [[]] := by
    obtain ⟨persist, workingDir, warningsAsErrors, version⟩ := c
    cases workingDir <;> cases version <;>
      simp [Settings.tomlLines, settings, lines, compilingLines, toList_wordLine, toList_textLine,
        map_toList_sectionLines, asText_str, Value.isNone, Line.written]
  rw [Settings.toToml, String.toList_intercalate, hlines]
  have := intercalate_append_nil (c.lines.map Line.written)
  rw [List.flatMap_map] at this
  exact this

/-- The names that the lines of a document can have. -/
def names : List String :=
  ["compiler", "persist", workingDirKey, "warnings_as_errors", "version", "naming", typeNameKey,
    namespaceNameKey, methodNameKey, "source", "include", "prettify", "logging", "level", "format"]

theorem names_lines : c.lines.filterMap Line.name? = names.filter fun n =>
    (c.workingDir.isSome || n != workingDirKey) && (c.version.isSome || n != "version") := by
  obtain ⟨persist, workingDir, warningsAsErrors, version⟩ := c
  cases workingDir <;> cases version <;> rfl

theorem hasBareName_lines : ∀ l ∈ c.lines, l.HasBareName := by
  have hbare : ∀ n ∈ names, n.toList ≠ [] ∧ n.toList.all isBare = true := by decide
  intro l hl n hn
  have hmem : n ∈ c.lines.filterMap Line.name? := List.mem_filterMap.mpr ⟨l, hl, hn⟩
  rw [names_lines] at hmem
  exact hbare n (List.mem_of_mem_filter hmem)

/-- The first section of the document. -/
def compilingEntries : Entries :=
  [("persist", Node.leaf (.bool c.persist))] ++
    (c.workingDir.map fun d => (workingDirKey, Node.leaf (.str d))).toList ++
    [("warnings_as_errors", Node.leaf (.bool c.warningsAsErrors))] ++
    (c.version.map fun v => ("version", Node.leaf (.str v))).toList

/-- The document that the lines make. -/
def document : Entries :=
  [("compiler", .table .declared c.compilingEntries),
    ("naming", .table .declared [(typeNameKey, .leaf (.str c.typeName)),
      (namespaceNameKey, .leaf (.str c.namespaceName)), (methodNameKey, .leaf (.str c.methodName))]),
    ("source", .table .declared [("include", .leaf (.bool c.kept)),
      ("prettify", .leaf (.bool c.prettify))]),
    ("logging", .table .declared [("level", .leaf (.str c.level)),
      ("format", .leaf (.str c.format.word))])]

theorem foldlM_lines : (c.lines.foldlM Line.apply {}).map Reading.document = some c.document := by
  have hcompiling : c.compilingLines.foldlM Line.apply {} =
      some ⟨[("compiler", .table .declared c.compilingEntries)], ["compiler"], 1⟩ := by
    obtain ⟨persist, workingDir, warningsAsErrors, version⟩ := c
    cases workingDir <;> cases version <;> rfl
  rw [lines, List.foldlM_append, hcompiling, document]
  generalize c.compilingEntries = entries
  rfl

end Choices

/-! ## What is read of a document -/

theorem same_str (a b : String) : (Value.str a).same (.str b) = (a == b) := by
  unfold Value.same
  rfl

theorem find?_items (es : Entries) (name : String) :
    ((Entries.items es).find? fun e => e.1.same (.str name)).map Prod.snd =
      (es.get? name).map Node.toValue := by
  induction es with
  | nil => rfl
  | cons e r ih =>
    obtain ⟨k, n⟩ := e
    have hget : Entries.get? ((k, n) :: r) name = if k = name then some n else Entries.get? r name := by
      by_cases h : k = name <;> simp [Entries.get?, Table.get?, h]
    rw [Entries.items, List.find?_cons, same_str, hget]
    by_cases h : k = name
    · simp [h]
    · rw [if_neg h, beq_eq_false_iff_ne.mpr h, ← ih]

/-- What a table of a document holds under a name. -/
theorem setting?_toValue (es : Entries) (name : String) :
    setting? es.toValue name = .ok ((es.get? name).map Node.toValue) := by
  have hany : (Entries.items es).any (fun e => e.1.same (.str name)) =
      ((es.get? name).map Node.toValue).isSome := by
    rw [← find?_items, Option.isSome_map, Bool.eq_iff_iff, List.any_eq_true, List.find?_isSome]
  have hlookup : Value.lookup? (Entries.items es) (.str name) = (es.get? name).map Node.toValue :=
    find?_items es name
  unfold setting?
  simp only [Entries.toValue, Value.holds?, Value.item?, hany, hlookup]
  cases (es.get? name).map Node.toValue <;> rfl

theorem group_toValue {α : Type} (es : Entries) (name : String) (usual : α)
    (f : Value → Except Fault α) :
    group es.toValue name usual f = ((es.get? name).map fun n => f n.toValue).getD (.ok usual) := by
  rw [group, setting?_toValue]
  cases es.get? name <;> rfl

variable (w : World) {root : Directory} (es : Entries)

/-- What a table of a document holds under a name, or a usual value. -/
def foundOr (name : String) (usual : Value) : Value := ((es.get? name).map Node.toValue).getD usual

theorem settingOr_eq (name : String) (usual : Value) :
    settingOr es.toValue name usual = .ok (foundOr es name usual) := by
  rw [settingOr, setting?_toValue]
  rfl

theorem naming_ofData : Naming.ofData es.toValue =
    .ok ⟨foundOr es typeNameKey (.str Wrapper.defaultTypeName),
      foundOr es namespaceNameKey (.str Wrapper.defaultNamespaceName),
      foundOr es methodNameKey (.str Wrapper.defaultMethodName)⟩ := by
  simp only [Naming.ofData, settingOr_eq]
  rfl

theorem embedding_ofData : Embedding.ofData es.toValue =
    .ok ⟨foundOr es "include" (.bool true), foundOr es "prettify" (.bool true)⟩ := by
  simp only [Embedding.ofData, settingOr_eq]
  rfl

theorem logging_ofData : Logging.ofData es.toValue =
    (((es.get? "format").map fun n => LogFormat.ofValue n.toValue).getD (.ok .text)).map
      fun format => ⟨foundOr es "level" (.str "WARNING"), format⟩ := by
  simp only [Logging.ofData, settingOr_eq, group_toValue]
  cases ((es.get? "format").map fun n => LogFormat.ofValue n.toValue).getD (.ok .text) <;> rfl

/-- The directory that a table of a document sets, if it sets one. -/
def directoryOf (root : Directory) : Except Fault (Option Directory) :=
  match es.get? workingDirKey with
  | some n => n.toValue.toStr?.elim (.error .type) fun d => .ok (some (root.below d))
  | none => .ok none

theorem compiling_ofData : Compiling.ofData w root es.toValue =
    (directoryOf es root).map fun workingDir =>
      ⟨foundOr es "persist" (.bool true), workingDir, foundOr es "warnings_as_errors" (.bool false),
        ((es.get? "version").map fun n => .str (n.toValue.asText w)).getD .none⟩ := by
  simp only [Compiling.ofData, settingOr_eq, setting?_toValue, directoryOf, bind, Except.bind, pure,
    Except.pure]
  cases es.get? workingDirKey with
  | none => cases es.get? "version" <;> rfl
  | some n =>
    simp only [Option.map_some]
    cases n.toValue.toStr? <;> cases es.get? "version" <;> rfl

theorem bind_eq_ok_iff {α β : Type} {x : Except Fault α} {f : α → Except Fault β} {b : β} :
    (x >>= f) = .ok b ↔ ∃ a, x = .ok a ∧ f a = .ok b := by
  cases x with
  | error e => exact ⟨nofun, fun ⟨_, h, _⟩ => nomatch h⟩
  | ok a => exact ⟨fun h => ⟨a, rfl, h⟩, fun ⟨_, ha, h⟩ => by cases ha; exact h⟩

theorem map_eq_ok_iff {α β : Type} {x : Except Fault α} {f : α → β} {b : β} :
    x.map f = .ok b ↔ ∃ a, x = .ok a ∧ f a = b := by
  cases x with
  | error e => exact ⟨nofun, fun ⟨_, h, _⟩ => nomatch h⟩
  | ok a => exact ⟨fun h => ⟨a, rfl, Except.ok.inj h⟩, fun ⟨_, ha, h⟩ => by cases ha; exact congrArg _ h⟩

/-- The settings that a document sets, group by group. -/
theorem ofData_eq_ok {data : Value} {s : Settings} (h : Settings.ofData w root data = .ok s) :
    group data "compiler" {} (Compiling.ofData w root) = .ok s.compiling ∧
      group data "naming" {} Naming.ofData = .ok s.naming ∧
      group data "logging" {} Logging.ofData = .ok s.logging := by
  simp only [Settings.ofData, bind_eq_ok_iff] at h
  obtain ⟨_, hcompiling, _, hnaming, _, -, _, hlogging, _, -, hs⟩ := h
  cases hs
  exact ⟨hcompiling, hnaming, hlogging⟩

/-! ## There and back -/

variable (c : Choices)

theorem directoryOf_compilingEntries (hroot : root.isOnDisk = true) :
    directoryOf c.compilingEntries root = .ok (c.settings []).compiling.workingDir := by
  obtain ⟨persist, workingDir, warningsAsErrors, version, _, _, _, _, _, _, _, absolute⟩ := c
  cases workingDir with
  | none => cases version <;> rfl
  | some d =>
    obtain ⟨habsolute, hclean⟩ := absolute d rfl
    have hbelow : root.below d = { path := d } := by
      rw [Directory.below, Path.join, if_pos habsolute, hclean, hroot]
    show Except.ok (some (root.below d)) = Except.ok (some _)
    rw [hbelow]

theorem compiling_document (hroot : root.isOnDisk = true) :
    Compiling.ofData w root c.compilingEntries.toValue = .ok (c.settings []).compiling := by
  rw [compiling_ofData, directoryOf_compilingEntries c hroot]
  obtain ⟨persist, workingDir, warningsAsErrors, version⟩ := c
  cases workingDir <;> cases version <;> rfl

theorem logging_document : Logging.ofData
    (Entries.toValue [("level", .leaf (.str c.level)), ("format", .leaf (.str c.format.word))]) =
      .ok (c.settings []).logging := by
  have hformat : LogFormat.ofValue (.str c.format.word) = .ok c.format := by
    cases c.format <;> simp [LogFormat.ofValue, same_str, LogFormat.word]
  rw [logging_ofData]
  show (LogFormat.ofValue (.str c.format.word)).map _ = _
  rw [hformat]
  rfl

/-- What is read of the document is what was written into it. -/
theorem ofData_document (hroot : root.isOnDisk = true) :
    Settings.ofData w root c.document.toValue = .ok (c.settings []) := by
  have hcompiling : group c.document.toValue "compiler" {} (Compiling.ofData w root) =
      .ok (c.settings []).compiling := by
    rw [group_toValue]
    exact compiling_document w c hroot
  have hlogging : group c.document.toValue "logging" {} Logging.ofData = .ok (c.settings []).logging := by
    rw [group_toValue]
    exact logging_document c
  have hnaming : group c.document.toValue "naming" {} Naming.ofData = .ok (c.settings []).naming := by
    rw [group_toValue]
    exact naming_ofData _
  have hembedding : group c.document.toValue "source" {} Embedding.ofData =
      .ok (c.settings []).embedding := by
    rw [group_toValue]
    exact embedding_ofData _
  unfold Settings.ofData
  rw [hcompiling, hnaming, hembedding, hlogging, group_toValue]
  rfl

/-- What is read of a file that was just written. -/
theorem load_write {path : String} (hpath : Path.lastPart path ≠ projectFile) (t : Tree)
    (content : String) :
    load w (t.write path content) path =
      match Toml.parse? content with
      | some data => (Settings.ofData w { path := Path.parent path } data).mapError .fault
      | none => .error (.fault .decode) := by
  have hread : (t.write path content).read? path = some content.toUTF8 := by
    rw [Tree.read?_write, if_pos rfl]
  have hexists : (t.write path content).exists? path = true := by
    have hfile : (t.write path content).isFile path = true := by
      rw [Tree.isFile, Table.contains]
      exact (congrArg Option.isSome hread).trans rfl
    rw [Tree.exists?, hfile, Bool.true_or]
  unfold load openDocument
  simp only [hexists, hread, hpath, Bool.not_true, Bool.false_eq_true, if_false, bind, Except.bind,
    Option.elim_some, documentOf_toUTF8]
  cases Toml.parse? content <;> rfl

/-! ## What is cut is noticed -/

theorem foundOr_of_get? {t : Entries} {k : String} {v : Value} (h : t.get? k = some (.leaf v))
    (usual : Value) : foundOr t k usual = v := by
  rw [foundOr, h]
  rfl

section Read

variable {c : Choices} {es t : Entries} {o : Origin} {k v : String}
  (hread : Settings.ofData w root es.toValue = .ok (c.settings []))
  (hk : t.get? k = some (.leaf (.str v)))
include hread hk

theorem naming_of_get? (hsection : es.get? "naming" = some (.table o t)) :
    (k = typeNameKey → v = c.typeName) ∧ (k = namespaceNameKey → v = c.namespaceName) ∧
      (k = methodNameKey → v = c.methodName) := by
  have h := (ofData_eq_ok w hread).2.1
  rw [group_toValue, hsection] at h
  have hnaming := Except.ok.inj ((naming_ofData t).symm.trans h)
  simp only [Choices.settings, Naming.mk.injEq] at hnaming
  obtain ⟨htype, hnamespace, hmethod⟩ := hnaming
  refine ⟨?_, ?_, ?_⟩ <;> rintro rfl
  · rwa [foundOr_of_get? hk, Value.str.injEq] at htype
  · rwa [foundOr_of_get? hk, Value.str.injEq] at hnamespace
  · rwa [foundOr_of_get? hk, Value.str.injEq] at hmethod

theorem logging_of_get? (hsection : es.get? "logging" = some (.table o t)) :
    (k = "level" → v = c.level) ∧ (k = "format" → v = c.format.word) := by
  have h := (ofData_eq_ok w hread).2.2
  rw [group_toValue, hsection] at h
  obtain ⟨format, hformat, hlogging⟩ := map_eq_ok_iff.mp ((logging_ofData t).symm.trans h)
  simp only [Choices.settings, Logging.mk.injEq] at hlogging
  obtain ⟨hlevel, rfl⟩ := hlogging
  refine ⟨?_, ?_⟩ <;> rintro rfl
  · rwa [foundOr_of_get? hk, Value.str.injEq] at hlevel
  · rw [hk] at hformat
    change LogFormat.ofValue (.str v) = .ok c.format at hformat
    simp only [LogFormat.ofValue, same_str, beq_iff_eq] at hformat
    split at hformat
    · rename_i hv
      rw [hv, Except.ok.inj hformat]
    · split at hformat
      · rename_i hv
        rw [hv, Except.ok.inj hformat]
      · cases hformat

theorem compiling_of_get? (hsection : es.get? "compiler" = some (.table o t)) :
    (k = "version" → c.version = some v) ∧
      (k = workingDirKey → c.workingDir = some (root.below v).path) := by
  have h := (ofData_eq_ok w hread).1
  rw [group_toValue, hsection] at h
  obtain ⟨dir, hdir, hcompiling⟩ := map_eq_ok_iff.mp ((compiling_ofData w t).symm.trans h)
  simp only [Choices.settings, Compiling.mk.injEq] at hcompiling
  obtain ⟨-, rfl, -, hversion⟩ := hcompiling
  refine ⟨?_, ?_⟩ <;> rintro rfl
  · rw [hk] at hversion
    change Value.str ((Value.str v).asText w) = _ at hversion
    rw [Choices.asText_str] at hversion
    cases hc : c.version with
    | none => rw [hc] at hversion; cases hversion
    | some x => rw [hc] at hversion; rw [Value.str.inj hversion]
  · simp only [directoryOf, hk] at hdir
    change Except.ok (some (root.below v)) = .ok _ at hdir
    cases hc : c.workingDir with
    | none => rw [hc] at hdir; cases hdir
    | some d =>
      rw [hc] at hdir
      rw [Option.some.inj (Except.ok.inj hdir)]

end Read

theorem textsUnder_lines (c : Choices) : textsUnder [] c.lines =
    (c.workingDir.map fun d => (["compiler"], workingDirKey, d)).toList ++
      (c.version.map fun v => (["compiler"], "version", v)).toList ++
      [(["naming"], typeNameKey, c.typeName), (["naming"], namespaceNameKey, c.namespaceName),
        (["naming"], methodNameKey, c.methodName), (["logging"], "level", c.level),
        (["logging"], "format", c.format.word)] := by
  obtain ⟨persist, workingDir, warningsAsErrors, version⟩ := c
  cases workingDir <;> cases version <;> rfl

/-- What is read in place of a text is that text, or leads to it as a path. -/
theorem eq_of_holds {c : Choices} {es : Entries} {x : List String × String × String} {v : String}
    (hread : Settings.ofData w root es.toValue = .ok (c.settings [])) (hx : x ∈ textsUnder [] c.lines)
    (h : Holds (.str v) x.2.1 x.1 es) :
    v = x.2.2 ∨ Path.isAbsolute x.2.2 = true ∧ Path.join root.path v = x.2.2 := by
  rw [textsUnder_lines] at hx
  simp only [List.mem_append, Option.mem_toList, Option.map_eq_some_iff, List.mem_cons,
    List.not_mem_nil, or_false] at hx
  rcases hx with (⟨d, hd, rfl⟩ | ⟨d, hd, rfl⟩) | rfl | rfl | rfl | rfl | rfl <;>
    obtain ⟨o, t, hsection, hk⟩ := h
  · have hdir := (compiling_of_get? w hread hk hsection).2 rfl
    obtain rfl : d = (root.below v).path := Option.some.inj (hd.symm.trans hdir)
    exact .inr ⟨(c.absolute _ hd).1, rfl⟩
  · exact .inl (Option.some.inj (((compiling_of_get? w hread hk hsection).1 rfl).symm.trans hd))
  · exact .inl ((naming_of_get? w hread hk hsection).1 rfl)
  · exact .inl ((naming_of_get? w hread hk hsection).2.1 rfl)
  · exact .inl ((naming_of_get? w hread hk hsection).2.2 rfl)
  · exact .inl ((logging_of_get? w hread hk hsection).1 rfl)
  · exact .inl ((logging_of_get? w hread hk hsection).2 rfl)

theorem isAbsolute_iff {p : String} :
    Path.isAbsolute p = true ↔ p.toList.head? = some '/' ∨ p.toList.head? = some '<' := by
  have hstarts (c : Char) : p.startsWith (String.singleton c) = true ↔ p.toList.head? = some c := by
    rw [String.startsWith_string_iff, String.toList_singleton]
    cases p.toList <;> simp [eq_comm]
  rw [Path.isAbsolute, Bool.or_eq_true]
  exact or_congr (hstarts '/') (hstarts '<')

/-- A cut text is not the text, and does not lead to it as a path either. -/
theorem ne_of_isCut {s t dir : String} (h : IsCut s t) :
    ¬(s = t ∨ Path.isAbsolute t = true ∧ Path.join dir s = t) := by
  rintro (rfl | ⟨habsolute, hjoin⟩)
  · exact Nat.lt_irrefl _ h.length
  · -- The path still begins at the root, so all that is done to it is to make it clean.
    have hroot : Path.isAbsolute s = true := by
      rw [isAbsolute_iff] at habsolute ⊢
      exact habsolute.imp (h.head _ (by decide)) (h.head _ (by decide))
    have hne : s ≠ "" := by
      rintro rfl
      exact absurd hroot (by decide)
    rw [Path.join, if_pos hroot] at hjoin
    have hclean := Path.length_clean_le hne
    have hcut := h.length
    rw [hjoin] at hclean
    omega

namespace Choices

/-- The texts on the lines of the document are those of the settings, and the word for the format. -/
theorem texts_lines : c.lines.filterMap Line.value? = c.texts ++ [c.format.word] := by
  obtain ⟨persist, workingDir, warningsAsErrors, version⟩ := c
  cases workingDir <;> cases version <;> rfl

theorem forall_texts_lines {p : String → Prop} :
    (∀ l ∈ c.lines, ∀ s ∈ l.value?, p s) ↔ (∀ s ∈ c.texts, p s) ∧ p c.format.word := by
  have h : (∀ l ∈ c.lines, ∀ s ∈ l.value?, p s) ↔ ∀ s ∈ c.lines.filterMap Line.value?, p s :=
    ⟨fun h s hs => by
      obtain ⟨l, hl, hsl⟩ := List.mem_filterMap.mp hs
      exact h l hl s hsl, fun h l hl s hs => h s (List.mem_filterMap.mpr ⟨l, hl, hs⟩)⟩
  rw [h, texts_lines, List.forall_mem_append, List.forall_mem_singleton]

/-- **Settings survive a file exactly if their texts stand for themselves:** if all do, what is loaded is
what was written, facts apart; and if what is loaded is that, all do, as long as none opens a text over
several lines. -/
theorem load_toToml (facts : List (Value × Value)) (t : Tree) {path : String}
    (hpath : Path.lastPart path ≠ projectFile) :
    ((∀ s ∈ c.texts, IsPlain s) →
      load w (t.write path ((c.settings facts).toToml w)) path = .ok (c.settings [])) ∧
    ((∀ s ∈ c.texts, opensLong s.toList = false) →
      load w (t.write path ((c.settings facts).toToml w)) path = .ok (c.settings []) →
        ∀ s ∈ c.texts, IsPlain s) := by
  have hparse : Toml.parse? ((c.settings facts).toToml w) =
      (readDocument (joinFeeds (writtenLines c.lines))).map Entries.toValue := by
    rw [Toml.parse?, toList_toToml]
  have hword : IsPlain c.format.word := by cases c.format <;> decide
  rw [load_write w hpath, hparse]
  constructor
  · intro hplain
    have hlines : ∀ l ∈ c.lines, l.IsPlain := c.forall_texts_lines.mpr ⟨hplain, hword⟩
    rw [readDocument_lines c.hasBareName_lines hlines, foldlM_lines]
    show (Settings.ofData w _ c.document.toValue).mapError _ = _
    rw [ofData_document w c rfl]
    rfl
  · intro hlong hload s hs
    have hlines : ∀ l ∈ c.lines, ∀ s ∈ l.value?, opensLong s.toList = false :=
      c.forall_texts_lines.mpr ⟨hlong, opensLong_of_plain hword⟩
    cases hdocument : readDocument (joinFeeds (writtenLines c.lines)) with
    | none => rw [hdocument] at hload; cases hload
    | some es =>
      rw [hdocument] at hload
      have hread : Settings.ofData w { path := Path.parent path } es.toValue = .ok (c.settings []) := by
        cases h : Settings.ofData w { path := Path.parent path } es.toValue with
        | ok r => simpa [h, Except.mapError] using hload
        | error e => simp [h, Except.mapError] at hload
      rcases plain_or_cut_document c.hasBareName_lines hlines hdocument with hplain | ⟨x, hx, v, hcut, h⟩
      · exact (c.forall_texts_lines.mp hplain).1 s hs
      · exact absurd (eq_of_holds w hread hx h) (ne_of_isCut hcut)

/-! ### Texts of both kinds -/

/-- A file for settings. -/
def ownFile : String := "/srv/typeforge.toml"

/-- Settings with plain texts of many kinds. -/
def plainChoices : Choices where
  workingDir := some "/srv/it's here"
  version := some "1.0 # draft = 2"
  typeName := "[tab\there]"
  namespaceName := ""
  methodName := "läuft"
  format := .json
  absolute := by
    rintro _ ⟨⟩
    rw [isAbsolute_iff, Path.clean, Path.partsOf_eq]
    decide +kernel

theorem lastPart_ownFile : Path.lastPart ownFile ≠ projectFile := by
  rw [Path.lastPart, Path.partsOf_eq]
  decide +kernel

/-- Such settings come back, without the facts that were with them. -/
theorem load_toToml_plain :
    Path.lastPart ownFile ≠ projectFile ∧ (∀ s ∈ plainChoices.texts, IsPlain s) ∧
      (∀ s ∈ plainChoices.texts, opensLong s.toList = false) ∧
      load {} (({} : Tree).write ownFile
        ((plainChoices.settings [(.str "owner", .int 1)]).toToml {})) ownFile =
          .ok (plainChoices.settings []) := by
  have hplain : ∀ s ∈ plainChoices.texts, IsPlain s := by decide +kernel
  exact ⟨lastPart_ownFile, hplain, by decide +kernel,
    (plainChoices.load_toToml {} _ {} lastPart_ownFile).1 hplain⟩

/-- **A quote makes a document that cannot be read,** and a backslash changes the text that is read. -/
theorem quoted_name_fails :
    let load (c : Choices) := load {} (({} : Tree).write ownFile ((c.settings []).toToml {})) ownFile
    (load { typeName := "a\"b" }).toOption.isNone = true ∧
      ((load { typeName := "a\\nb" }).toOption.bind fun s => s.naming.typeName.toStr?) =
        some "a\nb" := by
  have hload (c : Choices) : load {} (({} : Tree).write ownFile ((c.settings []).toToml {})) ownFile =
      match (readDocument (joinFeeds (writtenLines c.lines))).map Entries.toValue with
      | some data => (Settings.ofData {} { path := Path.parent ownFile } data).mapError .fault
      | none => .error (.fault .decode) := by
    rw [load_write {} lastPart_ownFile, Toml.parse?, toList_toToml]
  simp only [hload]
  constructor <;> decide +kernel

end Choices

end Facade.Config
