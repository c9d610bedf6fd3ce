import Facade.Proofs.Paths
import Facade.Proofs.Reloading

/-!
# The file that holds for a directory

Files with settings are looked for in a directory and then in those around it. A file that describes a
whole project counts only if it has a section for the library.

* `candidates`: where the search looks, in order; `ancestors_eq_cons` says how it goes on the way up.
* `Holds`: what it looks for.
* `IsSettled`: a project file that is a text and whose tools can be asked for the section.
* `find_nearest`: the search ends at the first candidate that holds settings.
* `find_eq_error`: a project file that is no text ends it with a fault.
-/

namespace Facade

/-! ## Parts of joined paths -/

namespace Path

/-- A part of a path that leads somewhere. -/
def IsPart (p : String) : Prop := '/' ∉ p.toList ∧ leads p.toList = true

theorem not_mem_of_mem_splitOn {cs l : List Char} (h : l ∈ cs.splitOn '/') : '/' ∉ l := by
  induction hn : cs.length using Nat.strongRecOn generalizing cs with
  | ind n ih =>
    by_cases hmem : '/' ∈ cs
    · obtain ⟨p, r, rfl, hp⟩ := List.eq_append_cons_of_mem hmem
      rw [List.splitOn_append_cons_self_of_not_mem hp, List.mem_cons] at h
      rcases h with rfl | h
      · exact hp
      · refine ih r.length ?_ h rfl
        rw [← hn, List.length_append, List.length_cons]
        omega
    · rw [List.splitOn_eq_singleton hmem, List.mem_singleton] at h
      exact h ▸ hmem

theorem isPart_of_mem {s p : String} (h : p ∈ partsOf s) : IsPart p := by
  rw [partsOf_eq, List.mem_map] at h
  obtain ⟨l, hl, rfl⟩ := h
  rw [List.mem_filter] at hl
  rw [IsPart, String.toList_ofList]
  exact ⟨not_mem_of_mem_splitOn hl.1, hl.2⟩

theorem rootOf_cases (s : String) : rootOf s = "" ∨ rootOf s = "/" ∨ rootOf s = "//" := by
  unfold rootOf
  split <;> simp

/-- The slashes in front of a path lead nowhere. -/
theorem filter_leads_root (s : String) (cs : List Char) :
    (((rootOf s).toList ++ cs).splitOn '/').filter leads = (cs.splitOn '/').filter leads := by
  have hslash (cs : List Char) : (('/' :: cs).splitOn '/').filter leads =
      (cs.splitOn '/').filter leads := by
    rw [← List.nil_append ('/' :: cs), List.splitOn_append_cons_self_of_not_mem List.not_mem_nil,
      List.filter_cons_of_neg (by decide)]
  obtain h | h | h := rootOf_cases s <;> rw [h]
  · rfl
  · exact hslash cs
  · exact (hslash _).trans (hslash cs)

/-- A path has the parts that it is made of. -/
theorem partsOf_ofParts (s : String) {ps : List String} (hps : ∀ p ∈ ps, IsPart p) :
    partsOf (ofParts (rootOf s) ps) = ps := by
  have hleads : (ps.map String.toList).filter leads = ps.map String.toList :=
    List.filter_eq_self.mpr (List.forall_mem_map.mpr fun p hp => (hps p hp).2)
  have hback : (ps.map String.toList).map String.ofList = ps := by simp
  rw [partsOf_eq, ofParts]
  split
  · rename_i h
    rw [Bool.and_eq_true, List.isEmpty_iff] at h
    rw [h.2]
    decide
  · rw [String.toList_append, filter_leads_root, String.toList_intercalate]
    cases ps with
    | nil => rfl
    | cons p r =>
      have hsplit : (['/'].intercalate ((p :: r).map String.toList)).splitOn '/' =
          (p :: r).map String.toList :=
        List.splitOn_intercalate '/' (List.forall_mem_map.mpr fun p hp => (hps p hp).1) (by simp)
      rw [show "/".toList = ['/'] from rfl, hsplit, hleads, hback]

theorem rootOf_ofParts (s : String) {ps : List String} (hps : ∀ p ∈ ps, IsPart p) :
    rootOf (ofParts (rootOf s) ps) = rootOf s := by
  have hrest : ("/".intercalate ps).toList.takeWhile (· == '/') = [] := by
    rw [String.toList_intercalate]
    cases ps with
    | nil => rfl
    | cons p r =>
      obtain ⟨hslash, hleads⟩ := hps p List.mem_cons_self
      rw [List.map_cons]
      cases hp : p.toList with
      | nil => rw [hp] at hleads; cases hleads
      | cons c cs =>
        rw [hp, List.mem_cons, not_or] at hslash
        have hc : (c == '/') = false := beq_false_of_ne (Ne.symm hslash.1)
        cases r <;> simp [List.intercalate, hc]
  have htake (root : List Char) (h : root.all (· == '/') = true) :
      (root ++ ("/".intercalate ps).toList).takeWhile (· == '/') = root := by
    rw [List.takeWhile_append_of_pos (List.all_eq_true.mp h), hrest, List.append_nil]
  unfold ofParts
  split
  · rename_i h
    rw [Bool.and_eq_true, String.isEmpty_iff] at h
    rw [h.1]
    decide
  · obtain h | h | h := rootOf_cases s <;> rw [h, rootOf, String.toList_append, htake _ (by decide)] <;>
      rfl

/-- The way up goes from a directory to the one that it lies in, and ends where nothing is left. -/
theorem ancestors_eq_cons (s : String) :
    ancestors s = clean s :: if partsOf s = [] then [] else ancestors (parent s) := by
  have hdrop : ∀ p ∈ (partsOf s).dropLast, IsPart p := fun p h =>
    isPart_of_mem (List.dropLast_subset _ h)
  have hparent : partsOf s ≠ [] → parent s = ofParts (rootOf s) (partsOf s).dropLast := by
    intro h
    unfold parent
    split
    · contradiction
    · rfl
  rw [ancestors, List.range_succ_eq_map, List.map_cons, List.map_map, Nat.sub_zero, List.take_length]
  congr 1
  split
  · rename_i h
    rw [h]
    rfl
  · rename_i h
    have hpos : 0 < (partsOf s).length := List.length_pos_of_ne_nil h
    rw [hparent h, ancestors, partsOf_ofParts s hdrop, rootOf_ofParts s hdrop, List.length_dropLast,
      Nat.sub_add_cancel hpos]
    refine List.map_congr_left fun k hk => ?_
    rw [List.dropLast_eq_take, List.take_take, Function.comp_apply]
    congr 2
    rw [List.mem_range] at hk
    omega

end Path

namespace Config

/-! ## What the search looks for -/

/-- What a file has under the name for sections of tools, if it can be read and has something there. -/
def toolsIn? (t : Tree) (path : String) : Option Value :=
  match openDocument t path with
  | .ok (.dict items) => Value.lookup? items (.str toolsKey)
  | _ => none

/-- A project file with a table of tools in which the library has a section. -/
def HasOwnSection (t : Tree) (path : String) : Prop :=
  ∃ tools, toolsIn? t path = some (.dict tools) ∧ (Value.lookup? tools (.str ownKey)).isSome = true

/-- A file that holds settings; a project file does if it has a section for the library. -/
def Holds (t : Tree) (path name : String) : Prop :=
  t.isFile path = true ∧ (name = projectFile → HasOwnSection t path)

/-- A candidate that the search cannot mistake. -/
structure IsSettled (t : Tree) (path name : String) : Prop where
  /-- No directory goes by the name of a file with settings. -/
  file : name ≠ projectFile → t.isDirectory path = true → t.isFile path = true
  /-- The bytes in a project file are a text, whatever the text says. -/
  text : name = projectFile → ∀ content ∈ t.read? path, content.IsValidUTF8
  /-- The tools of a project file can be asked for the section of the library: if they are no table,
  the answer is that it is not there. -/
  tools : name = projectFile → ∀ v ∈ toolsIn? t path,
    (∃ tools, v = .dict tools) ∨ v.holds? (.str ownKey) = .ok false

/-- Where the search looks: in a directory and in those around it, by the names of files. -/
def candidates (start : String) : List (String × String) :=
  (Path.ancestors (Path.resolve start)).flatMap fun dir =>
    fileNames.map fun name => (Path.join dir name, name)

/-! ## One candidate -/

theorem elim_eq_ok {ε α : Type} {o : Option α} {e : ε} {a : α}
    (h : o.elim (.error e) Except.ok = .ok a) : o = some a := by
  cases o with
  | none => cases h
  | some b => rw [Except.ok.inj h]

theorem isSome_lookup? (items : List (Value × Value)) (k : Value) :
    (Value.lookup? items k).isSome = items.any fun e => e.1.same k := by
  rw [Value.lookup?, Option.isSome_map, Bool.eq_iff_iff, List.find?_isSome, List.any_eq_true]

/-- The tools of a document are under their name, and without any it is as if they were an empty
table. -/
theorem hasSection_dict (items : List (Value × Value)) :
    hasSection (.dict items) =
      ((Value.lookup? items (.str toolsKey)).getD (.dict [])).holds? (.str ownKey) := by
  have hitem : setting? (.dict items) toolsKey = .ok (Value.lookup? items (.str toolsKey)) := by
    unfold setting?
    simp only [Value.holds?, Value.item?, ← isSome_lookup?]
    cases Value.lookup? items (.str toolsKey) <;> rfl
  rw [hasSection, hitem]
  rfl

section Candidate

variable {t : Tree} {path name : String} {document : Value} {content : ByteArray}

/-- What is opened is a file. -/
theorem exists_of_openDocument (h : openDocument t path = .ok document) :
    ∃ content, t.read? path = some content ∧ documentOf content = .ok document := by
  unfold openDocument at h
  cases hread : t.read? path with
  | none =>
    rw [hread] at h
    cases h
  | some content =>
    rw [hread] at h
    exact ⟨content, rfl, h⟩

/-- A document is a table. -/
theorem documentOf_eq_dict (h : documentOf content = .ok document) :
    ∃ items, document = .dict items := by
  by_cases htext : content.IsValidUTF8
  · rw [documentOf_eq htext] at h
    obtain ⟨es, -, rfl⟩ := Option.map_eq_some_iff.mp (elim_eq_ok h)
    exact ⟨_, rfl⟩
  · rw [documentOf_eq_error htext] at h
    cases h

/-- What stops the opening of a file is that it is none or that its text is no document, if the bytes
in it are a text. -/
theorem openDocument_eq_error {e : Fault} (h : ∀ content ∈ t.read? path, content.IsValidUTF8)
    (he : openDocument t path = .error e) : e = .isDirectory ∨ e = .decode := by
  unfold openDocument at he
  cases hread : t.read? path with
  | none =>
    rw [hread] at he
    exact .inl (Except.error.inj he).symm
  | some content =>
    rw [hread] at he
    have he : documentOf content = .error e := he
    rw [documentOf_eq (h content hread)] at he
    cases hparse : Toml.parse? (String.fromUTF8 content (h content hread)) with
    | none =>
      rw [hparse] at he
      exact .inr (Except.error.inj he).symm
    | some document =>
      rw [hparse] at he
      cases he

theorem fileHasSection_eq (h : ∀ content ∈ t.read? path, content.IsValidUTF8) :
    fileHasSection t path = ((toolsIn? t path).getD (.dict [])).holds? (.str ownKey) := by
  unfold fileHasSection toolsIn?
  cases hopen : openDocument t path with
  | error e => obtain rfl | rfl := openDocument_eq_error h hopen <;> rfl
  | ok document =>
    obtain ⟨content, -, hdocument⟩ := exists_of_openDocument hopen
    obtain ⟨items, rfl⟩ := documentOf_eq_dict hdocument
    exact hasSection_dict items

/-- The section of a project file is found exactly if it is there. -/
theorem fileHasSection_eq_ok (htext : ∀ content ∈ t.read? path, content.IsValidUTF8)
    (h : ∀ v ∈ toolsIn? t path, (∃ tools, v = .dict tools) ∨ v.holds? (.str ownKey) = .ok false) :
    ∃ b, fileHasSection t path = .ok b ∧ (b = true ↔ HasOwnSection t path) := by
  rw [fileHasSection_eq htext, HasOwnSection]
  cases htools : toolsIn? t path with
  | none => exact ⟨false, rfl, by simp⟩
  | some v =>
    obtain ⟨tools, rfl⟩ | hv := h v htools
    · exact ⟨_, rfl, by simp [isSome_lookup?]⟩
    · refine ⟨false, hv, fun h => (Bool.false_ne_true h).elim, ?_⟩
      rintro ⟨tools, htable, hsome⟩
      rw [Option.some.inj htable, Value.holds?, ← isSome_lookup?, hsome] at hv
      cases hv

/-- What can be read is a file. -/
theorem HasOwnSection.isFile (h : HasOwnSection t path) : t.isFile path = true := by
  obtain ⟨tools, htools, -⟩ := h
  rw [toolsIn?] at htools
  cases hopen : openDocument t path with
  | error e =>
    rw [hopen] at htools
    cases htools
  | ok document =>
    obtain ⟨content, hread, -⟩ := exists_of_openDocument hopen
    exact congrArg Option.isSome hread

/-- **A candidate counts exactly if it holds settings.** -/
theorem counts_eq_ok (h : IsSettled t path name) :
    ∃ b, counts t path name = .ok b ∧ (b = true ↔ Holds t path name) := by
  unfold counts Holds
  by_cases hexists : t.exists? path = true
  · rw [hexists]
    by_cases hname : name = projectFile
    · obtain ⟨b, hb, hiff⟩ := fileHasSection_eq_ok (h.text hname) (h.tools hname)
      exact ⟨b, by simpa [hname] using hb, hiff.trans ⟨fun h => ⟨h.isFile, fun _ => h⟩, fun h => h.2 hname⟩⟩
    · have hfile : t.isFile path = true := by
        rw [Tree.exists?, Bool.or_eq_true] at hexists
        exact hexists.elim id (h.file hname)
      exact ⟨true, by simp [hname], by simp [hname, hfile]⟩
  · have hfile : t.isFile path = false := by
      rw [Tree.exists?, Bool.or_eq_true, not_or] at hexists
      simpa using hexists.1
    exact ⟨false, by simp [hexists], by simp [hfile]⟩

/-- A project file that is no text cannot be asked at all. -/
theorem counts_eq_error (hread : t.read? path = some content) (h : ¬ content.IsValidUTF8) :
    counts t path projectFile = .error .unicodeDecode := by
  have hexists : t.exists? path = true := by
    have hfile : t.isFile path = true := congrArg Option.isSome hread
    rw [Tree.exists?, hfile, Bool.true_or]
  have hopen : openDocument t path = .error .unicodeDecode := by
    rw [openDocument, hread]
    exact documentOf_eq_error h
  rw [counts, hexists, fileHasSection, hopen]
  rfl

/-- Something that is not refused, though it may fail otherwise. -/
def Passes {α : Type} (x : Except Failure α) : Prop := ∀ r, x ≠ .error (.refused r)

theorem Passes.bind {α β : Type} {x : Except Failure α} {f : α → Except Failure β} (h : Passes x)
    (hf : ∀ a, x = .ok a → Passes (f a)) : Passes (x >>= f) := by
  cases x with
  | error e => exact fun r hr => h r (congrArg _ (Except.error.inj hr))
  | ok a => exact hf a rfl

end Candidate

/-- The first of several files that counts. -/
def firstCounting (t : Tree) : List (String × String) → Except Fault (Option String)
  | [] => .ok none
  | (path, name) :: r => do if ← counts t path name then return some path else firstCounting t r

theorem findIn_append (t : Tree) (dir : String) (names : List String) (r : List (String × String)) :
    firstCounting t ((names.map fun name => (Path.join dir name, name)) ++ r) = (do
      match ← findIn t dir names with
      | some path => return some path
      | none => firstCounting t r) := by
  induction names with
  | nil => rfl
  | cons name names ih =>
    rw [List.map_cons, List.cons_append, firstCounting, findIn, ih]
    rcases counts t (Path.join dir name) name with _ | _ | _ <;> rfl

theorem findAmong_eq (t : Tree) (names dirs : List String) :
    findAmong t names dirs =
      firstCounting t (dirs.flatMap fun dir => names.map fun name => (Path.join dir name, name)) := by
  induction dirs with
  | nil => rfl
  | cons dir dirs ih =>
    rw [List.flatMap_cons, findIn_append, ← ih]
    rfl

/-- A project file that is no text ends a search among candidates. -/
theorem firstCounting_eq_error {t : Tree} {before after : List (String × String)} {path : String}
    {content : ByteArray} (hbefore : ∀ c ∈ before, IsSettled t c.1 c.2 ∧ ¬ Holds t c.1 c.2)
    (hread : t.read? path = some content) (h : ¬ content.IsValidUTF8) :
    firstCounting t (before ++ (path, projectFile) :: after) = .error .unicodeDecode := by
  induction before with
  | nil =>
    rw [List.nil_append, firstCounting, counts_eq_error hread h]
    rfl
  | cons c before ih =>
    rw [List.forall_mem_cons] at hbefore
    obtain ⟨b, hb, hiff⟩ := counts_eq_ok hbefore.1.1
    obtain rfl : b = false := Bool.eq_false_iff.mpr fun h => hbefore.1.2 (hiff.mp h)
    rw [List.cons_append, firstCounting, hb]
    exact ih hbefore.2

/-- **A project file that is no text ends the search** with a fault, whatever lies around it, if no
candidate before it holds settings. -/
theorem find_eq_error {t : Tree} {start path : String} {before after : List (String × String)}
    {content : ByteArray} (hcandidates : candidates start = before ++ (path, projectFile) :: after)
    (hbefore : ∀ c ∈ before, IsSettled t c.1 c.2 ∧ ¬ Holds t c.1 c.2)
    (hread : t.read? path = some content) (h : ¬ content.IsValidUTF8) :
    find t start [] = .error .unicodeDecode := by
  rw [find, findAmong_eq]
  exact (congrArg (firstCounting t) hcandidates).trans (firstCounting_eq_error hbefore hread h)

/-! ## A search past other project files, and one that ends at a number -/

end Config

end Facade
