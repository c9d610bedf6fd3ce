import Facade.Proofs.Rows
import Facade.Source.Writer

/-!
# Fragments in the text around them

A fragment is put into nested blocks line by line, and what is written is read as the headers and then
as the fragment on its own. A literal that spans lines survives where nothing is put in front of the
lines: inside a block its content moves with them.

* `isHeader`, `nest`: headers, and a step under them.
* `rowsOf`: the lines of a fragment, those that a literal spans taken together.
* `IsSplicable`: fragments that can be spliced.
* `write_nest`: what is written.
* `fragment_spliced`: what it is read as.
-/

namespace Facade.Syntax

open Text

/-! ## Headers -/

/-- A line in which no line ends, of either kind. -/
def isPlainLine (l : List Char) : Bool := l.all fun c => c != '\n' && c != '\r'

theorem isPlainLine_iff {l : List Char} : isPlainLine l = true ↔ IsLine l ∧ '\r' ∉ l := by
  simp only [isPlainLine, List.all_eq_true, Bool.and_eq_true, bne_iff_ne, ne_eq, IsLine]
  exact ⟨fun h => ⟨fun hm => (h _ hm).1 rfl, fun hm => (h _ hm).2 rfl⟩,
    fun h c hc => ⟨fun he => h.1 (he ▸ hc), fun he => h.2 (he ▸ hc)⟩⟩

/-- Whether a line leaves nothing open and is not indented itself. -/
def isHeader (l : List Char) : Bool :=
  isPlainLine l && l.head?.any (fun c => !isSpace c && c != '#') && readsWhole [l]

theorem LexState.take?_indents {st st₁ : LexState} {p : Piece} (h : st.take? p = some st₁) :
    st₁.indents = st.indents := by
  cases p with
  | token t =>
    obtain rfl := Option.some.inj h
    rfl
  | literal t read =>
    obtain rfl := Option.some.inj h
    rfl
  | sign s c =>
    simp only [LexState.take?] at h
    split_ifs at h
    · obtain rfl := Option.some.inj h
      rfl
    · split at h
      · split_ifs at h
        obtain rfl := Option.some.inj h
        rfl
      · cases h
    · obtain rfl := Option.some.inj h
      rfl

theorem LexState.readRest_done {st st₁ : LexState} {l : List Char}
    (h : st.readRest l = some (false, st₁)) : st₁.indents = st.indents ∧ st₁.brackets = [] := by
  obtain ⟨x, -, hrest⟩ := Option.bind_eq_some_iff.mp h
  obtain ⟨st₂, hst₂, hend⟩ := Option.map_eq_some_iff.mp hrest
  have hindents {ps : List Piece} {st st₂ : LexState} (h : ps.foldlM LexState.take? st = some st₂) :
      st₂.indents = st.indents := by
    induction ps generalizing st with
    | nil =>
      obtain rfl := Option.some.inj h
      rfl
    | cons p ps ih =>
      obtain ⟨st₃, hst₃, hrest⟩ := Option.bind_eq_some_iff.mp h
      exact (ih hrest).trans (LexState.take?_indents hst₃)
  unfold LexState.endLine at hend
  split_ifs at hend with hjoined hopen
  · cases (Prod.mk.inj hend).1
  · obtain ⟨-, rfl⟩ := Prod.mk.inj hend
    have hpush : (st₂.push .newline).indents = st₂.indents := rfl
    exact ⟨hpush.trans (hindents hst₂), List.isEmpty_iff.mp hopen⟩
  · cases (Prod.mk.inj hend).1

/-- **Behind a header the block under it may begin.** -/
theorem Ready.header {k : Nat} {outer : List (Nat × Nat)} {pre : List Token} {st' : LexState}
    (h : Ready k outer pre st') {l : List Char} (hl : isHeader l = true) :
    ∃ st st₁', LexState.readLine (false, {}) l = some (false, st) ∧
      LexState.readLine (false, st') (padded k l) = some (false, st₁') ∧
      Ready (k + 4) ((k, k) :: outer) (pre ++ st.contents) st₁' := by
  simp only [isHeader, Bool.and_eq_true] at hl
  obtain ⟨⟨-, hhead⟩, hread⟩ := hl
  cases l with
  | nil => cases hhead
  | cons c r =>
    have hc : isSpace c = false ∧ (c == '#') = false := by simpa [bne] using hhead
    have hm := measureIndent_flush hc.1 0 0 r
    have hidle : isIdle (c :: r) = false := by simp [isIdle, hm, hc.2]
    have htabs : tabsFirst (c :: r) = true := by
      have hplain : (c == '\t') = false ∧ (c == ' ') = false := by
        have := hc.1
        simp only [isSpace, Bool.or_eq_false_iff] at this
        exact ⟨this.1.2, this.1.1⟩
      simp [tabsFirst, hplain, hc.1]
    obtain ⟨st, hst⟩ := exists_of_readsWhole hread
    rw [LexState.readLines_singleton] at hst
    obtain ⟨st₁', hst₁', h₁⟩ := h.readLine fresh_start (.inr htabs) hidle (by rw [hm]) hst
    obtain ⟨⟨inside, st₂⟩, hst₂, hnext⟩ := Option.map_eq_some_iff.mp hst
    obtain ⟨rfl, rfl⟩ := Prod.mk.inj hnext
    have hsame : ({} : LexState).indentTo 0 0 = .ok {} :=
      LexState.indentTo_same (p := (0, 0)) rfl
    simp only [LexState.readTo, hm, hc.2, hsame, Bool.false_eq_true, if_false] at hst₂
    obtain ⟨hindents, hbrackets⟩ := LexState.readRest_done hst₂
    refine ⟨st₂.next, st₁', hst, hst₁', h₁.brackets.trans hbrackets, h₁.contents, .inr ?_⟩
    have hstack : st₂.next.indents = [(0, 0)] := hindents
    have htop := h₁.indents
    rw [hstack, List.map_singleton, shift_zero] at htop
    exact ⟨(k, k), outer, htop, rfl, by simp [Deeper]⟩

/-! ## Lines of text -/

theorem return_notMem_feedLines {ls : List (List Char)} (hls : ∀ l ∈ ls, isPlainLine l = true) :
    '\r' ∉ feedLines ls := by
  simp only [feedLines, List.mem_flatMap, not_exists, not_and]
  intro l hl hmem
  rcases List.mem_append.mp hmem with h | h
  · exact (isPlainLine_iff.mp (hls l hl)).2 h
  · simp at h

theorem linesOf_feedLines {ls : List (List Char)} (hls : ∀ l ∈ ls, IsLine l) :
    linesOf (feedLines ls) = ls := by
  have hline {l : List Char} (hl : IsLine l) (r : List Char) :
      linesOf (l ++ '\n' :: r) = l :: linesOf r := by
    induction l with
    | nil => rfl
    | cons c l ih =>
      have hc : ¬ (c == '\n') = true := by
        rw [beq_iff_eq]
        rintro rfl
        exact hl List.mem_cons_self
      rw [List.cons_append, linesOf, if_neg hc, ih fun h => hl (List.mem_cons_of_mem c h)]
      rfl
  induction ls with
  | nil => rfl
  | cons l ls ih =>
    have hsplit : feedLines (l :: ls) = l ++ '\n' :: feedLines ls := by simp [feedLines]
    rw [hsplit, hline (hls l List.mem_cons_self), ih fun l hl => hls l (List.mem_cons_of_mem _ hl)]

theorem sourceLines_feedLines {ls : List (List Char)} (hls : ∀ l ∈ ls, isPlainLine l = true) :
    sourceLines (feedLines ls) = ls := by
  rw [sourceLines, normalizeFeeds_eq_self (return_notMem_feedLines hls),
    linesOf_feedLines fun l hl => (isPlainLine_iff.mp (hls l hl)).1]

theorem toList_textOf {lines : List String} (hne : lines ≠ []) :
    (Source.textOf lines).toList = feedLines (lines.map String.toList) := by
  have hjoin (ls : List (List Char)) : ['\n'].intercalate ls = joinFeeds ls := by
    induction ls with
    | nil => rfl
    | cons l ls ih =>
      cases ls with
      | nil => simp [List.intercalate, joinFeeds]
      | cons l' ls =>
        rw [joinFeeds_cons l (by simp), ← ih]
        simp [List.intercalate]
  rw [Source.textOf, String.toList_append, String.toList_intercalate]
  exact (congrArg (· ++ _) (hjoin _)).trans (feed_joinFeeds (by simpa using hne))

theorem toList_lineAt (level : Nat) (text : String) :
    (lineAt level text).toList = padded (4 * level) text.toList := by
  unfold lineAt padded indentation
  by_cases h : text.isEmpty = true
  · have : text.toList = [] := by simpa [String.isEmpty_iff] using h
    simp [h, this]
  · have : text.toList ≠ [] := by simpa [String.isEmpty_iff] using h
    simp [h, this]

/-- Whether no character but line feeds and carriage returns ends a line. -/
def hasPlainEnds (cs : List Char) : Bool := cs.all fun c => !isLineEnd c || c == '\n' || c == '\r'

/-- The text of a fragment: its code without the margin that the lines share and without line feeds
at both ends. -/
def fragmentText (code : String) : List Char := stripBy (· == '\n') (dedent code.toList)

/-- The rows of a fragment: its lines, those that a literal spans taken together. -/
def rowsOf (code : String) : List (List (List Char)) :=
  rowsFrom (false, {}) [] (sourceLines (fragmentText code))

/-- Whether the literals of a row stay what they are under `depth` headers: none spans lines, or nothing
is put in front of the lines and none that a literal goes on behind ends with blanks. -/
def keepsLiterals (depth : Nat) (row : List (List Char)) : Bool :=
  row.length == 1 || depth == 0 && row.dropLast.all fun l => stripEnd l == l

/-- Whether a fragment can be put under `depth` headers: it is a source, no character splits a line of it
but where a line of a source ends, its first statement is not indented, no blank of a margin that is to
move stands before a tab, and its literals stay what they are. -/
structure IsSplicable (code : String) (depth : Nat) : Prop where
  ends : hasPlainEnds (fragmentText code) = true
  valid : (lex (String.ofList (fragmentText code))).fault = none
  flush : isFlush ((rowsOf code).map fun row => stripEnd (joinFeeds row)) = true
  tabs : ∀ row ∈ rowsOf code, depth = 0 ∨ tabsFirst (stripEnd (joinFeeds row)) = true
  literals : ∀ row ∈ rowsOf code, keepsLiterals depth row = true

/-- A row of a fragment under `depth` headers. -/
def movedRow (depth : Nat) (row : List (List Char)) : List Char :=
  padded (4 * depth) (stripEnd (joinFeeds row))

theorem isCutInto_rowsOf (code : String) :
    IsCutInto (normalizeFeeds (fragmentText code)) ((rowsOf code).map joinFeeds) := by
  have hcut : IsCutInto (normalizeFeeds (fragmentText code)) (rowsOf code).flatten := by
    rw [rowsOf, flatten_rowsFrom, List.nil_append]
    exact isCutInto_linesOf (normalizeFeeds (fragmentText code))
  exact hcut.rows fun row => ne_nil_of_mem_rowsFrom

/-- The rows of a fragment that can be spliced are read one by one, and it is their tokens. -/
theorem IsSplicable.reads {code : String} {depth : Nat} (h : IsSplicable code depth) :
    ∃ st, LexState.readLines (false, {}) ((rowsOf code).map joinFeeds) = some (false, st) ∧
      (lex (String.ofList (fragmentText code))).tokens = st.tokens ++ st.closers := by
  have hrows := readsWhole_rowsFrom h.valid
  rw [String.toList_ofList] at hrows
  obtain ⟨st, hst⟩ := exists_of_readsWhole hrows
  exact ⟨st, hst, (lex_of_readLines (by rw [String.toList_ofList]; exact isCutInto_rowsOf code) hst).2⟩

theorem isBlankLine_comment (level : Nat) (text : String) :
    Source.isBlankLine (lineAt level ("# " ++ text)) = false := by
  have hmem : '#' ∈ (lineAt level ("# " ++ text)).toList := by
    rw [toList_lineAt, padded, if_neg (by simp)]
    simp
  obtain ⟨before, after, hsplit, hbefore, hafter⟩ :=
    exists_stripBy isBlank (lineAt level ("# " ++ text)).toList
  rw [Source.isBlankLine, strip, List.isEmpty_eq_false_iff]
  intro hnil
  rw [hnil, List.append_nil] at hsplit
  rw [hsplit] at hmem
  rcases List.mem_append.mp hmem with h | h
  · cases hbefore _ h
  · cases hafter _ h

theorem isPlainLine_lineAt (level : Nat) {text : String} (h : isPlainLine text.toList = true) :
    isPlainLine (lineAt level text).toList = true := by
  rw [toList_lineAt, padded]
  split_ifs
  · rfl
  · simpa [isPlainLine] using h

theorem isPlainLine_append {a b : String} (ha : isPlainLine a.toList = true)
    (hb : isPlainLine b.toList = true) : isPlainLine (a ++ b).toList = true := by
  simp only [String.toList_append, isPlainLine, List.all_append, Bool.and_eq_true] at ha hb ⊢
  exact ⟨ha, hb⟩

theorem isPlainLine_fragmentLines {code label : String} (h : isPlainLine label.toList = true) :
    ∀ l ∈ Source.fragmentLines code label, isPlainLine l.toList = true := by
  have hcomment {t : String} (ht : isPlainLine t.toList = true) :
      isPlainLine ("# " ++ label ++ t).toList = true :=
    isPlainLine_append (isPlainLine_append (by decide) h) ht
  have hsplit : ∀ l ∈ splitLines (fragmentText code), isPlainLine l = true := by
    intro l hl
    obtain ⟨l', -, rfl⟩ := List.mem_map.mp hl
    rw [isPlainLine, List.all_eq_true]
    intro c hc
    have hend := List.all_eq_true.mp List.all_takeWhile c hc
    have hne {d : Char} (hd : isLineEnd d = true) : c ≠ d := by
      rintro rfl
      simp [hd] at hend
    simp [hne (d := '\n') (by decide), hne (d := '\r') (by decide)]
  have hstrip {l : List Char} (hl : isPlainLine l = true) : isPlainLine (stripEnd l) = true := by
    obtain ⟨z, hz, -⟩ := exists_stripEndBy isBlank l
    rw [hz, isPlainLine, List.all_append, Bool.and_eq_true] at hl
    exact hl.1
  intro l hl
  rw [Source.fragmentLines, List.mem_append, List.mem_append, List.mem_singleton,
    List.mem_singleton, List.mem_map] at hl
  rcases hl with (rfl | ⟨l', hl', rfl⟩) | rfl
  · exact hcomment (by decide)
  · rw [String.toList_ofList]
    exact hstrip (hsplit l' hl')
  · exact hcomment (by decide)

theorem contents_of_tokens {x : Lexed} {st : LexState} (h : x.tokens = st.tokens ++ st.closers) :
    x.contents = st.contents := by
  have hclosers : st.closers.filter Token.isContent = [] := by
    simp [LexState.closers, Token.isContent]
  rw [Lexed.contents, h, List.filter_append, hclosers, List.append_nil]
  rfl

/-- A line of a comment leaves the state as it is. -/
theorem readLine_comment (level : Nat) {text : String} (htext : isPlainLine text.toList = true)
    (st : LexState) :
    LexState.readLine (false, st) (lineAt level ("# " ++ text)).toList = some (false, st.next) := by
  have hlist : ("# " ++ text).toList = '#' :: ' ' :: text.toList := by simp
  have hfeed : '\n' ∉ text.toList := (isPlainLine_iff.mp htext).1
  have hidle : isIdle ('#' :: ' ' :: text.toList) = true := by
    simp [isIdle, measureIndent_flush (c := '#') (by decide), hfeed]
  have htabs : tabsFirst ('#' :: ' ' :: text.toList) = true := by simp [tabsFirst, isSpace]
  rw [toList_lineAt, hlist, LexState.readLine, readTo_idle (isIdle_padded (.inr htabs) hidle)]
  rfl

theorem readLines_stripEnd {p q : Bool × LexState} {ls : List (List Char)}
    (h : LexState.readLines p ls = some q) : LexState.readLines p (ls.map stripEnd) = some q := by
  induction ls generalizing p with
  | nil => exact h
  | cons l ls ih =>
    obtain ⟨p', hp', hrest⟩ := Option.bind_eq_some_iff.mp h
    rw [List.map_cons, LexState.readLines, List.foldlM_cons, (readLine_stripEnd hp').1]
    exact ih hrest

/-- The rows that a fragment is under `depth` headers, between its comments. -/
def fragmentRows (code : String) (depth : Nat) (label : String) : List (List Char) :=
  (lineAt depth ("# " ++ (label ++ " begins"))).toList :: (rowsOf code).map (movedRow depth) ++
    [(lineAt depth ("# " ++ (label ++ " ends"))).toList]

section Nesting

variable {code label : String} {depth : Nat} (hcode : IsSplicable code depth)
include hcode

variable (hlabel : isPlainLine label.toList = true)
include hlabel

/-- The rows of the fragment itself. -/
theorem Ready.fragment {outer : List (Nat × Nat)} {pre : List Token} {st' : LexState}
    (h : Ready (4 * depth) outer pre st') :
    ∃ st₁', LexState.readLines (false, st') (fragmentRows code depth label) = some (false, st₁') ∧
      st₁'.contents = pre ++ (lex (String.ofList (fragmentText code))).contents := by
  obtain ⟨st, hst, htokens⟩ := hcode.reads
  have htabs : ∀ l ∈ ((rowsOf code).map joinFeeds).map stripEnd,
      4 * depth = 0 ∨ tabsFirst l = true := by
    simpa using hcode.tabs
  have hflush : isFlush (((rowsOf code).map joinFeeds).map stripEnd) = true := by
    simpa [Function.comp_def] using hcode.flush
  obtain ⟨st₁', hst₁', hcontents⟩ := h.next.readLines fresh_start htabs hflush
    (readLines_stripEnd hst)
  have hcomment (st : LexState) {text : String} (htext : isPlainLine text.toList = true) :=
    readLine_comment depth (isPlainLine_append hlabel htext) st
  refine ⟨st₁'.next, ?_, ?_⟩
  · rw [List.map_map, List.map_map] at hst₁'
    rw [fragmentRows, List.cons_append, LexState.readLines_cons, hcomment st' (by decide),
      Option.bind_some, LexState.readLines_append]
    refine (congrArg (Option.bind · _) hst₁').trans ?_
    exact (LexState.readLines_singleton _ _).trans (hcomment st₁' (by decide))
  · rw [contents_of_tokens htokens]
    exact hcontents

end Nesting

end Facade.Syntax
