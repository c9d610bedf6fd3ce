import Facade.Proofs.Embedding
import Facade.Proofs.Linewise

/-!
# Lines moved into a block

Blanks at the end of a line do not count, and blanks in front of all lines move their margins as a
whole: the state that reading them leaves is the same but for the margins and for what was read before.
A line may hold line feeds in its literals, and only its first part moves then.

* `readLine_stripEnd`: a line without the blanks at its end.
* `measureIndent_shift`: the margin of a line behind blanks.
* `LexState.indentTo_cases`: what the margin of a line can do.
* `Shifted`: the relation of the two states; `Shifted.readLines` keeps it.
* `Ready.readLines`: lines under a header, from the first one on.
-/

namespace Facade.Syntax

open Text

/-! ## Blanks at the end of a line -/

section Stripping

variable {z : List Char} (hz : ∀ c ∈ z, isBlank c = true)
include hz

theorem piece?_blank : piece? z = none := by
  cases z with
  | nil => rfl
  | cons c z =>
    have hc := hz c List.mem_cons_self
    have hplain := forall_isBlank (P := fun c => (c == '\'' || c == '"') = false ∧
      c.isDigit = false ∧ (c == '.') = false) (by decide) hc
    have hsign : readSign? (c :: z) = none := by
      simpa [readSign?, signs3, signs2] using readSign?_ends (ends_of_blank hz) []
    simp only [piece?, (identifier_of_isBlank hc).1, hplain, hsign]
    split <;> rfl

/-- Blanks alone hold no piece, and only those that may stand inside a line are read at all. -/
theorem pieces_blank {n : Nat} {x : List Piece × Bool} (h : pieces n z = some x) :
    x = ([], false) ∧ ∀ c ∈ z, isSpace c = true := by
  induction n generalizing z with
  | zero => cases h
  | succ n ih =>
    cases z with
    | nil => exact ⟨(Option.some.inj h).symm, by simp⟩
    | cons c r =>
      have hmark := forall_isBlank (P := fun c => (c == '#') = false ∧ (c == '\\') = false)
        (by decide) (hz c List.mem_cons_self)
      have hr : ∀ d ∈ r, isBlank d = true := fun d hd => hz d (List.mem_cons_of_mem c hd)
      simp only [pieces, hmark, piece?_blank hz, Bool.false_and, Bool.false_eq_true, if_false,
        Option.bind_none] at h
      split_ifs at h with hspace
      obtain ⟨hx, hall⟩ := ih hr h
      exact ⟨hx, by simpa [hspace] using hall⟩

/-- **The pieces of a line are those of the line without the blanks at its end,** among which there is
no line feed. -/
theorem pieces_of_append {n n' : Nat} {m : List Char} {x : List Piece × Bool}
    (h : pieces n (m ++ z) = some x) (hn : m.length < n') : pieces n' m = some x ∧ '\n' ∉ z := by
  induction n generalizing m n' x with
  | zero => cases h
  | succ n ih =>
    obtain ⟨k, rfl⟩ := Nat.exists_eq_succ_of_ne_zero (Nat.ne_of_gt (Nat.zero_lt_of_lt hn))
    cases m with
    | nil =>
      obtain ⟨rfl, hspaces⟩ := pieces_blank hz h
      exact ⟨rfl, fun hfeed => by cases hspaces _ hfeed⟩
    | cons c r =>
      have hk : r.length < k := by simpa using hn
      simp only [List.cons_append, pieces] at h ⊢
      split_ifs at h with hspace hhash hfeed hslash
      · rw [if_pos hspace]
        exact ih h hk
      · rw [List.mem_append, not_or] at hfeed
        rw [if_neg hspace, if_pos hhash, if_neg hfeed.1]
        exact ⟨h, hfeed.2⟩
      · have hr : r = [] ∧ z = [] := by simp_all
        rw [if_neg hspace, if_neg hhash, if_pos (by simp_all)]
        exact ⟨h, by simp [hr]⟩
      · obtain ⟨⟨p, r'⟩, hpiece, hrest⟩ := Option.bind_eq_some_iff.mp h
        obtain ⟨x', hx', rfl⟩ := Option.map_eq_some_iff.mp hrest
        obtain ⟨r'', rfl, hpiece'⟩ := piece?_of_append hz (m := c :: r) (by simp) hpiece
        have hlen := (piece?_suffix hpiece').length_le
        have hjoin : ¬ (c == '\\' && r.isEmpty) = true := by
          simp only [Bool.and_eq_true, beq_iff_eq]
          rintro ⟨rfl, -⟩
          rw [piece?_layout (by decide)] at hpiece'
          cases hpiece'
        have hk' : r''.length < k := by omega
        obtain ⟨hpieces, hfeed⟩ := ih hx' hk'
        rw [if_neg hspace, if_neg hhash, if_neg hjoin, hpiece', Option.bind_some, hpieces]
        exact ⟨rfl, hfeed⟩

theorem readRest_of_append {st : LexState} {m : List Char} {q : Bool × LexState}
    (h : st.readRest (m ++ z) = some q) : st.readRest m = some q ∧ '\n' ∉ z := by
  obtain ⟨x, hx, hrest⟩ := Option.bind_eq_some_iff.mp h
  obtain ⟨hpieces, hfeed⟩ := pieces_of_append hz hx (Nat.lt_succ_self _)
  rw [LexState.readRest, hpieces]
  exact ⟨hrest, hfeed⟩

theorem readTo_of_append {inside : Bool} {st : LexState} {m : List Char} {q : Bool × LexState}
    (hm : m = [] ∨ ∃ r d, m = r ++ [d] ∧ isBlank d = false) (h : st.readTo inside (m ++ z) = some q) :
    st.readTo inside m = some q ∧ '\n' ∉ z := by
  cases inside with
  | true => exact readRest_of_append hz h
  | false =>
  simp only [LexState.readTo, Bool.false_eq_true, if_false] at h ⊢
  rcases hm with rfl | ⟨r, d, rfl, hd⟩
  · rw [List.nil_append] at h
    have hspace := (measureIndent_isSpace 0 0 z).1
    have hsuffix := measureIndent_suffix 0 0 z
    rcases hmeasure : measureIndent 0 0 z with ⟨col, alt, _ | ⟨c, r⟩⟩
    · rw [hmeasure] at h
      have hspaces := (measureIndent_isSpace 0 0 z).2 (by rw [hmeasure])
      exact ⟨h, fun hfeed => by cases hspaces _ hfeed⟩
    · rw [hmeasure] at h hspace hsuffix
      have hblank : ∀ d ∈ c :: r, isBlank d = true := fun d hd => hz d (hsuffix.subset hd)
      have hhash : (c == '#') = false :=
        forall_isBlank (P := fun c => (c == '#') = false) (by decide) (hblank c List.mem_cons_self)
      simp only [hhash, Bool.false_eq_true, if_false] at h
      cases hto : st.indentTo col alt with
      | error e => simp [hto] at h
      | ok st' =>
        rw [hto] at h
        obtain ⟨x, hx, -⟩ := Option.bind_eq_some_iff.mp h
        have := (pieces_blank hblank hx).2 c List.mem_cons_self
        rw [hspace c r rfl] at this
        cases this
  · have hne : (measureIndent 0 0 (r ++ [d])).2.2 ≠ [] := by
      intro hnil
      have hspace := (measureIndent_isSpace 0 0 (r ++ [d])).2 hnil d (by simp)
      simp only [isSpace, Bool.or_eq_true, beq_iff_eq] at hspace
      rcases hspace with (rfl | rfl) | rfl <;> cases hd
    rw [measureIndent_append (.inr hne)] at h
    rcases hmeasure : measureIndent 0 0 (r ++ [d]) with ⟨col, alt, _ | ⟨c, r'⟩⟩
    · exact absurd (by rw [hmeasure]) hne
    · rw [hmeasure] at h
      simp only [List.cons_append] at h ⊢
      split_ifs at h with hhash hfeed
      · rw [List.mem_append, not_or] at hfeed
        rw [if_pos hhash, if_neg hfeed.1]
        exact ⟨h, hfeed.2⟩
      · rw [if_neg hhash]
        cases hto : st.indentTo col alt with
        | error e => simp [hto] at h
        | ok st' =>
          rw [hto] at h
          exact readRest_of_append hz (m := c :: r') h

end Stripping

/-- **A line is read like the line without the blanks at its end.** -/
theorem readLine_stripEnd {p q : Bool × LexState} {l : List Char}
    (h : LexState.readLine p l = some q) : LexState.readLine p (stripEnd l) = some q ∧
      ∃ z, l = stripEnd l ++ z ∧ (∀ c ∈ z, isBlank c = true) ∧ '\n' ∉ z := by
  obtain ⟨z, hsplit, hz⟩ := exists_stripEndBy isBlank l
  obtain ⟨q', hq', rfl⟩ := Option.map_eq_some_iff.mp h
  rw [hsplit] at hq'
  have hend : stripEnd l = [] ∨ ∃ r d, stripEnd l = r ++ [d] ∧ isBlank d = false := by
    rcases List.eq_nil_or_concat (stripEnd l) with hnil | ⟨r, d, hd⟩
    · exact .inl hnil
    · have hhead := List.head?_dropWhile_not isBlank l.reverse
      rw [List.concat_eq_append] at hd
      have hrev : l.reverse.dropWhile isBlank = d :: r.reverse := by
        rw [← List.reverse_reverse (l.reverse.dropWhile isBlank)]
        exact (congrArg List.reverse hd).trans (by simp)
      rw [hrev] at hhead
      exact .inr ⟨r, d, hd, by simpa using hhead⟩
  obtain ⟨hread, hfeed⟩ := readTo_of_append hz hend hq'
  exact ⟨by rw [LexState.readLine, hread]; rfl, z, hsplit, hz, hfeed⟩

/-! ## Margins behind an indentation -/

/-- A margin that may stand behind `k` blanks, by its two columns: no blank stands before a tab in it,
unless nothing is to stand before it. -/
def IsMargin (k : Nat) (p : Nat × Nat) : Prop :=
  k = 0 ∨ ∃ tabs blanks, p = (8 * tabs + blanks, tabs + blanks)

/-- The columns of such a margin behind `k` blanks. -/
def shift (k : Nat) (p : Nat × Nat) : Nat × Nat :=
  (if p.1 = p.2 then k + p.1 else 8 * (k / 8) + p.1, k + p.2)

/-- Deeper in both columns. -/
def Deeper (p q : Nat × Nat) : Prop := q.1 < p.1 ∧ q.2 < p.2

theorem shift_nothing (p : Nat × Nat) : shift 0 p = p := by simp [shift]

theorem Deeper.shift {k : Nat} {p q : Nat × Nat} (h : Deeper p q) (hp : IsMargin k p)
    (hq : IsMargin k q) : Deeper (shift k p) (shift k q) := by
  rcases hp with rfl | ⟨t, b, rfl⟩
  · simpa only [shift_nothing] using h
  rcases hq with rfl | ⟨t', b', rfl⟩
  · simpa only [shift_nothing] using h
  simp only [Deeper, Syntax.shift] at h ⊢
  split_ifs <;> omega

/-- Whether no blank of the margin of a line stands before a tab. -/
def tabsFirst (l : List Char) : Bool :=
  !((l.dropWhile (· == '\t')).dropWhile (· == ' ')).head?.any isSpace

theorem measureIndent_tabs (t col alt : Nat) (l : List Char) :
    measureIndent col alt (List.replicate t '\t' ++ l) =
      measureIndent (if t = 0 then col else 8 * (col / 8) + 8 * t) (alt + t) l := by
  induction t generalizing col alt with
  | zero => rfl
  | succ t ih =>
    rw [List.replicate_succ, List.cons_append, measureIndent, ih]
    have hcol : (if t = 0 then (col / 8 + 1) * 8 else 8 * ((col / 8 + 1) * 8 / 8) + 8 * t) =
        8 * (col / 8) + 8 * (t + 1) := by
      split_ifs <;> omega
    rw [hcol, if_neg (Nat.succ_ne_zero t), Nat.add_right_comm]
    rfl

theorem measureIndent_blanks (b col alt : Nat) (l : List Char) :
    measureIndent col alt (List.replicate b ' ' ++ l) = measureIndent (col + b) (alt + b) l := by
  induction b generalizing col alt with
  | zero => rfl
  | succ b ih =>
    rw [List.replicate_succ, List.cons_append, measureIndent, ih]
    congr 1 <;> omega

theorem measureIndent_flush {c : Char} (h : isSpace c = false) (col alt : Nat) (r : List Char) :
    measureIndent col alt (c :: r) = (col, alt, c :: r) := by
  have hc : c ≠ ' ' ∧ c ≠ '\t' ∧ c ≠ '\x0c' := by simpa [isSpace, and_assoc] using h
  simp [measureIndent, hc]

/-- The two columns of a margin are zero together. -/
theorem measureIndent_zero {col alt : Nat} {l : List Char} (h : (measureIndent col alt l).1 = 0)
    (hzero : col = 0 → alt = 0) : (measureIndent col alt l).2.1 = 0 := by
  fun_induction measureIndent col alt l with
  | case1 col alt r ih => exact ih h (by omega)
  | case2 col alt r ih => exact ih h (by omega)
  | case3 col alt r ih => exact ih h (fun _ => rfl)
  | case4 => exact hzero h

/-- **Blanks in front of a line shift its margin.** -/
theorem measureIndent_shift {k : Nat} {l : List Char} (h : k = 0 ∨ tabsFirst l = true) :
    ∃ p r, IsMargin k p ∧ measureIndent 0 0 l = (p.1, p.2, r) ∧
      measureIndent 0 0 (List.replicate k ' ' ++ l) = ((shift k p).1, (shift k p).2, r) := by
  rcases h with rfl | h
  · exact ⟨((measureIndent 0 0 l).1, (measureIndent 0 0 l).2.1), (measureIndent 0 0 l).2.2,
      .inl rfl, rfl, by rw [shift_nothing]; rfl⟩
  have htabs := List.takeWhile_append_dropWhile (p := (· == '\t')) (l := l)
  have hblanks := List.takeWhile_append_dropWhile (p := (· == ' ')) (l := l.dropWhile (· == '\t'))
  have hrep (c : Char) (l : List Char) : l.takeWhile (· == c) =
      List.replicate (l.takeWhile (· == c)).length c :=
    List.eq_replicate_of_mem fun d hd => by
      simpa using List.all_eq_true.mp (List.all_takeWhile (l := l) (p := (· == c))) d hd
  rw [hrep] at htabs hblanks
  generalize (l.takeWhile (· == '\t')).length = t at htabs
  generalize ((l.dropWhile (· == '\t')).takeWhile (· == ' ')).length = b at hblanks
  simp only [tabsFirst, Bool.not_eq_true'] at h
  generalize (l.dropWhile (· == '\t')).dropWhile (· == ' ') = r at hblanks h
  rw [← hblanks] at htabs
  have hstop (col alt : Nat) : measureIndent col alt r = (col, alt, r) := by
    cases r with
    | nil => rfl
    | cons c r => exact measureIndent_flush (by simpa using h) col alt r
  refine ⟨(8 * t + b, t + b), r, .inr ⟨t, b, rfl⟩, ?_, ?_⟩
  · rw [← htabs, measureIndent_tabs, measureIndent_blanks, hstop]
    simp only [Prod.mk.injEq, and_true]
    split_ifs <;> omega
  · rw [← htabs, measureIndent_blanks, measureIndent_tabs, measureIndent_blanks, hstop]
    simp only [shift, Prod.mk.injEq, and_true]
    split_ifs <;> omega

/-! ## Opening and closing blocks -/

theorem Deeper.trans {p q r : Nat × Nat} (h : Deeper q r) (h' : Deeper p q) : Deeper p r :=
  ⟨h.1.trans h'.1, h.2.trans h'.2⟩

namespace LexState

variable {st st' : LexState} {p q : Nat × Nat} {ds ps : List (Nat × Nat)}

/-- The state in which as many blocks were closed. -/
def close (st : LexState) (n : Nat) : LexState :=
  (List.range n).foldl (fun st _ => st.push .dedent) st

theorem indentTo_same (h : st.indents = p :: ps) : st.indentTo p.1 p.2 = .ok st := by
  simp [indentTo, h]

theorem indentTo_open (h : st.indents = q :: ps) (hlt : Deeper p q) :
    st.indentTo p.1 p.2 = .ok ({ st with indents := p :: q :: ps }.push .indent) := by
  obtain ⟨hcol, halt⟩ := hlt
  simp [indentTo, h, Nat.ne_of_gt hcol, hcol, Nat.not_le.mpr halt]

theorem indentTo_close (h : st.indents = ds ++ p :: ps) (hds : ∀ q ∈ ds, p.1 < q.1) (hne : ds ≠ []) :
    st.indentTo p.1 p.2 = .ok ({ st with indents := p :: ps }.close ds.length) := by
  obtain ⟨d, ds', rfl⟩ := List.exists_cons_of_ne_nil hne
  have hd := hds d List.mem_cons_self
  have hkept : (d :: (ds' ++ p :: ps)).dropWhile (fun q => p.1 < q.1) = p :: ps := by
    rw [← List.cons_append, List.dropWhile_append_of_pos (by simpa using hds)]
    simp
  have hlen : (d :: (ds' ++ p :: ps)).length - (p :: ps).length = (d :: ds').length := by
    simp only [List.length_cons, List.length_append]
    omega
  simp only [indentTo, h, List.cons_append, hkept, hlen, Nat.ne_of_lt hd, Nat.lt_asymm hd, if_false,
    ne_eq, not_true_eq_false]
  rfl

/-- **What the margin of a line can do:** nothing, open a block, or close some. -/
theorem indentTo_cases (h : st.indentTo p.1 p.2 = .ok st') :
    (∃ ps, st.indents = p :: ps ∧ st' = st) ∨
    (∃ q ps, st.indents = q :: ps ∧ Deeper p q ∧
      st' = { st with indents := p :: q :: ps }.push .indent) ∨
    ∃ ds ps, ds ≠ [] ∧ st.indents = ds ++ p :: ps ∧ (∀ q ∈ ds, p.1 < q.1) ∧
      st' = { st with indents := p :: ps }.close ds.length := by
  cases hstack : st.indents with
  | nil => simp [indentTo, hstack] at h
  | cons q ps =>
    have h₀ := h
    simp only [indentTo, hstack] at h
    split_ifs at h with hcol halt hless hle
    · obtain rfl := Except.ok.inj h
      exact .inl ⟨ps, by rw [← Prod.ext hcol halt], rfl⟩
    · have hlt : Deeper p q := ⟨hless, by omega⟩
      rw [indentTo_open hstack hlt] at h₀
      exact .inr (.inl ⟨q, ps, rfl, hlt, (Except.ok.inj h₀).symm⟩)
    · have hsplit := List.takeWhile_append_dropWhile (p := fun r => p.1 < r.1) (l := q :: ps)
      have hds := List.all_eq_true.mp (List.all_takeWhile (p := fun r => p.1 < r.1) (l := q :: ps))
      cases hkept : (q :: ps).dropWhile (fun r => p.1 < r.1) with
      | nil => simp [hkept] at h
      | cons r rest =>
        simp only [hkept] at h
        split_ifs at h with hr halt
        have hrp : r = p := Prod.ext (by simpa using hr) (by simpa using Eq.symm (by simpa using halt))
        rw [hkept, hrp] at hsplit
        have hq : q ∈ (q :: ps).takeWhile fun r => p.1 < r.1 := by
          rw [List.takeWhile_cons_of_pos (by simp; omega)]
          exact List.mem_cons_self
        have hclose := indentTo_close (hstack.trans hsplit.symm) (by simpa using hds)
          (List.ne_nil_of_mem hq)
        rw [hclose] at h₀
        exact .inr (.inr ⟨_, rest, List.ne_nil_of_mem hq, hsplit.symm, by simpa using hds,
          (Except.ok.inj h₀).symm⟩)

end LexState

/-! ## The state inside a block -/

/-- Whether a token is part of a line: a word, a number, a literal, a sign or the end of the line. -/
def Token.isContent : Token → Bool
  | .indent | .dedent | .finish => false
  | _ => true

/-- The tokens that are part of the lines. -/
def Lexed.contents (x : Lexed) : List Token := x.tokens.filter Token.isContent

/-- The tokens that are part of the lines so far. -/
def LexState.contents (st : LexState) : List Token := st.tokens.filter Token.isContent

theorem LexState.contents_push (st : LexState) (t : Token) :
    (st.push t).contents = st.contents ++ [t].filter Token.isContent := by
  simp [contents, tokens, push]

theorem pieces_replicate (n j : Nat) (l : List Char) :
    pieces (n + j) (List.replicate j ' ' ++ l) = pieces n l := by
  induction j with
  | zero => rfl
  | succ j ih => exact ih

/-- Reading the lines of a fragment on its own is at `st`, and reading them behind `k` blanks in a
block is at `st'`: the same brackets are open, the margins of the fragment are shifted, and the tokens
`pre` were read before. -/
structure Shifted (k : Nat) (outer : List (Nat × Nat)) (pre : List Token) (st st' : LexState) :
    Prop where
  /-- The brackets that are open. -/
  brackets : st'.brackets = st.brackets
  /-- The margins of the fragment stand above those of the block. -/
  indents : st'.indents = st.indents.map (shift k) ++ outer
  /-- What was read. -/
  contents : st'.contents = pre ++ st.contents
  /-- The margins may stand there. -/
  margins : ∀ p ∈ st.indents, IsMargin k p
  /-- Each margin is deeper than the one it stands in. -/
  deeper : st.indents.Pairwise Deeper

namespace Shifted

variable {k : Nat} {outer : List (Nat × Nat)} {pre : List Token} {st st' : LexState}

theorem push (h : Shifted k outer pre st st') (t : Token) :
    Shifted k outer pre (st.push t) (st'.push t) :=
  ⟨h.brackets, h.indents, by simp [LexState.contents_push, h.contents], h.margins, h.deeper⟩

theorem next (h : Shifted k outer pre st st') : Shifted k outer pre st.next st'.next :=
  ⟨h.brackets, h.indents, h.contents, h.margins, h.deeper⟩

theorem open_ (h : Shifted k outer pre st st') (bs : List Char) :
    Shifted k outer pre { st with brackets := bs } { st' with brackets := bs } :=
  ⟨rfl, h.indents, h.contents, h.margins, h.deeper⟩

/-- A piece is taken in a block as outside of it. -/
theorem take? (h : Shifted k outer pre st st') {p : Piece} {st₁ : LexState}
    (ht : st.take? p = some st₁) :
    ∃ st₁', st'.take? p = some st₁' ∧ Shifted k outer pre st₁ st₁' := by
  cases p with
  | token t =>
    obtain rfl := Option.some.inj ht
    exact ⟨_, rfl, h.push t⟩
  | literal t read =>
    obtain rfl := Option.some.inj ht
    obtain ⟨hbrackets, hindents, hcontents, hmargins, hdeeper⟩ := h.push t
    exact ⟨_, rfl, hbrackets, hindents, hcontents, hmargins, hdeeper⟩
  | sign s c =>
    have hpush := h.push (.sign s)
    simp only [LexState.take?, h.brackets] at ht ⊢
    split_ifs at ht ⊢ with hopen hclose
    · obtain rfl := Option.some.inj ht
      exact ⟨_, rfl, hpush.open_ _⟩
    · cases hb : st.brackets with
      | nil => simp [hb] at ht
      | cons o os =>
        simp only [hb] at ht ⊢
        split_ifs at ht ⊢
        obtain rfl := Option.some.inj ht
        exact ⟨_, rfl, hpush.open_ _⟩
    · obtain rfl := Option.some.inj ht
      exact ⟨_, rfl, hpush⟩

theorem takeAll (h : Shifted k outer pre st st') {ps : List Piece} {st₁ : LexState}
    (ht : ps.foldlM LexState.take? st = some st₁) :
    ∃ st₁', ps.foldlM LexState.take? st' = some st₁' ∧ Shifted k outer pre st₁ st₁' := by
  induction ps generalizing st st' with
  | nil =>
    obtain rfl := Option.some.inj ht
    exact ⟨st', rfl, h⟩
  | cons p ps ih =>
    obtain ⟨st₂, hst₂, hrest⟩ := Option.bind_eq_some_iff.mp ht
    obtain ⟨st₂', hst₂', h₂⟩ := h.take? hst₂
    obtain ⟨st₁', hst₁', h₁⟩ := ih h₂ hrest
    exact ⟨st₁', by rw [List.foldlM_cons, hst₂']; exact hst₁', h₁⟩

theorem endLine (h : Shifted k outer pre st st') (joined : Bool) :
    (st'.endLine joined).1 = (st.endLine joined).1 ∧
      Shifted k outer pre (st.endLine joined).2 (st'.endLine joined).2 := by
  unfold LexState.endLine
  rw [h.brackets]
  split_ifs
  · exact ⟨rfl, h⟩
  · exact ⟨rfl, h.push .newline⟩
  · exact ⟨rfl, h⟩

/-- The rest of a line, behind blanks. -/
theorem readRest (h : Shifted k outer pre st st') {l : List Char} {q : Bool × LexState}
    (hq : st.readRest l = some q) (j : Nat) :
    ∃ st₁', st'.readRest (List.replicate j ' ' ++ l) = some (q.1, st₁') ∧
      Shifted k outer pre q.2 st₁' := by
  obtain ⟨x, hx, hrest⟩ := Option.bind_eq_some_iff.mp hq
  obtain ⟨st₂, hst₂, rfl⟩ := Option.map_eq_some_iff.mp hrest
  obtain ⟨st₂', hst₂', h₂⟩ := h.takeAll hst₂
  obtain ⟨hinside, h₁⟩ := h₂.endLine x.2
  refine ⟨(st₂'.endLine x.2).2, ?_, h₁⟩
  have hlen : (List.replicate j ' ' ++ l).length + 1 = l.length + 1 + j := by
    simp only [List.length_append, List.length_replicate]
    omega
  rw [LexState.readRest, hlen, pieces_replicate, hx, Option.bind_some, hst₂', Option.map_some,
    ← hinside]

/-- Margins are opened and closed inside the block only. -/
theorem restack (h : Shifted k outer pre st st') (ps : List (Nat × Nat))
    (hmargins : ∀ p ∈ ps, IsMargin k p) (hdeeper : ps.Pairwise Deeper) :
    Shifted k outer pre { st with indents := ps }
      { st' with indents := ps.map (shift k) ++ outer } :=
  ⟨h.brackets, rfl, h.contents, hmargins, hdeeper⟩

theorem pushAll {α : Type} (h : Shifted k outer pre st st') (t : Token) (xs : List α) :
    Shifted k outer pre (xs.foldl (fun st _ => st.push t) st)
      (xs.foldl (fun st _ => st.push t) st') := by
  induction xs generalizing st st' with
  | nil => exact h
  | cons x xs ih => exact ih (h.push t)

/-- **A line that opens or closes blocks does so in a block as outside of it.** -/
theorem indentTo (h : Shifted k outer pre st st') {p : Nat × Nat} (hp : IsMargin k p)
    {st₁ : LexState} (hto : st.indentTo p.1 p.2 = .ok st₁) :
    ∃ st₁', st'.indentTo (shift k p).1 (shift k p).2 = .ok st₁' ∧ Shifted k outer pre st₁ st₁' := by
  have hmargins := h.margins
  have hdeeper := h.deeper
  have hindents := h.indents
  rcases LexState.indentTo_cases hto with ⟨ps, hstack, rfl⟩ | ⟨q, ps, hstack, hlt, rfl⟩ |
    ⟨ds, ps, hne, hstack, hds, rfl⟩
  all_goals rw [hstack] at hmargins hdeeper hindents
  · rw [List.map_cons, List.cons_append] at hindents
    exact ⟨st', LexState.indentTo_same hindents, h⟩
  · have hlt' := hlt.shift hp (hmargins q List.mem_cons_self)
    rw [List.map_cons, List.cons_append] at hindents
    refine ⟨_, LexState.indentTo_open hindents hlt', ?_⟩
    refine (h.restack (p :: q :: ps) ?_ ?_).push .indent
    · exact List.forall_mem_cons.mpr ⟨hp, hmargins⟩
    · refine List.pairwise_cons.mpr ⟨fun r hr => ?_, hdeeper⟩
      rcases List.mem_cons.mp hr with rfl | hr
      · exact hlt
      · exact ((List.pairwise_cons.mp hdeeper).1 r hr).trans hlt
  · obtain ⟨-, hdeeper', hcross⟩ := List.pairwise_append.mp hdeeper
    have hds' : ∀ q ∈ ds.map (shift k), (shift k p).1 < q.1 := by
      intro q' hq'
      obtain ⟨q, hq, rfl⟩ := List.mem_map.mp hq'
      exact ((hcross q hq p List.mem_cons_self).shift (hmargins q (by simp [hq])) hp).1
    have hstack' : st'.indents = ds.map (shift k) ++ shift k p :: (ps.map (shift k) ++ outer) := by
      rw [hindents]
      simp
    refine ⟨_, LexState.indentTo_close hstack' hds' (by simpa using hne), ?_⟩
    rw [List.length_map]
    refine (h.restack (p :: ps) (fun q hq => hmargins q ?_) hdeeper').pushAll .dedent _
    exact List.mem_append_right _ hq

/-- A line of a fragment as it stands in a block: behind blanks, if there is anything on it. -/
theorem readTo (h : Shifted k outer pre st st') {inside : Bool} {l : List Char}
    {q : Bool × LexState} (htabs : k = 0 ∨ tabsFirst l = true) (hq : st.readTo inside l = some q) :
    ∃ st₁', st'.readTo inside (List.replicate k ' ' ++ l) = some (q.1, st₁') ∧
      Shifted k outer pre q.2 st₁' := by
  cases inside with
  | true => exact h.readRest hq k
  | false =>
    obtain ⟨p, r, hp, hmeasure, hshift⟩ := measureIndent_shift htabs
    simp only [LexState.readTo, hmeasure, hshift, Bool.false_eq_true, if_false] at hq ⊢
    cases r with
    | nil =>
      obtain rfl := Option.some.inj hq
      exact ⟨st', rfl, h⟩
    | cons c r =>
      simp only at hq ⊢
      split_ifs at hq ⊢
      · obtain rfl := Option.some.inj hq
        exact ⟨st', rfl, h⟩
      · cases hto : st.indentTo p.1 p.2 with
        | error e => simp [hto] at hq
        | ok st₂ =>
          rw [hto] at hq
          obtain ⟨st₂', hst₂', h₂⟩ := h.indentTo hp hto
          simp only [hst₂']
          exact h₂.readRest hq 0

end Shifted

/-- A line behind `k` blanks; an empty one stays empty. -/
def padded (k : Nat) (l : List Char) : List Char := if l = [] then [] else List.replicate k ' ' ++ l

namespace Shifted

variable {k : Nat} {outer : List (Nat × Nat)} {pre : List Token} {st st' : LexState}

theorem readLine (h : Shifted k outer pre st st') {inside : Bool} {l : List Char}
    {q : Bool × LexState} (htabs : k = 0 ∨ tabsFirst l = true)
    (hq : LexState.readLine (inside, st) l = some q) :
    ∃ st₁', LexState.readLine (inside, st') (padded k l) = some (q.1, st₁') ∧
      Shifted k outer pre q.2 st₁' := by
  obtain ⟨q', hq', rfl⟩ := Option.map_eq_some_iff.mp hq
  obtain ⟨st₁', hst₁', h₁⟩ : ∃ st₁', st'.readTo inside (padded k l) = some (q'.1, st₁') ∧
      Shifted k outer pre q'.2 st₁' := by
    by_cases hl : l = []
    · subst hl
      cases inside with
      | true =>
        have hrest : st.readRest [] = some q' := hq'
        exact h.readRest hrest 0
      | false =>
        obtain rfl := Option.some.inj hq'
        exact ⟨st', rfl, h⟩
    · rw [padded, if_neg hl]
      exact h.readTo htabs hq'
  exact ⟨st₁'.next, by rw [LexState.readLine, hst₁']; rfl, h₁.next⟩

/-- **The lines of a fragment are read in a block as outside of it.** -/
theorem readLines (h : Shifted k outer pre st st') {inside : Bool} {ls : List (List Char)}
    {q : Bool × LexState} (htabs : ∀ l ∈ ls, k = 0 ∨ tabsFirst l = true)
    (hq : LexState.readLines (inside, st) ls = some q) :
    ∃ st₁', LexState.readLines (inside, st') (ls.map (padded k)) = some (q.1, st₁') ∧
      Shifted k outer pre q.2 st₁' := by
  induction ls generalizing inside st st' with
  | nil =>
    obtain rfl := Option.some.inj hq
    exact ⟨st', rfl, h⟩
  | cons l ls ih =>
    obtain ⟨⟨inside₁, st₁⟩, hq₁, hrest⟩ := Option.bind_eq_some_iff.mp hq
    obtain ⟨st₁', hst₁', h₁⟩ := h.readLine (htabs l List.mem_cons_self) hq₁
    obtain ⟨st₂', hst₂', h₂⟩ := ih h₁ (fun l hl => htabs l (List.mem_cons_of_mem _ hl)) hrest
    refine ⟨st₂', ?_, h₂⟩
    rw [List.map_cons, LexState.readLines, List.foldlM_cons, hst₁']
    exact hst₂'

end Shifted

/-! ## The first line of a block -/

/-- Whether there is nothing on a line, or only a comment. -/
def isIdle (l : List Char) : Bool :=
  match (measureIndent 0 0 l).2.2 with
  | [] => true
  | c :: r => c == '#' && !r.contains '\n'

/-- Whether the first line with something on it is not indented. -/
def isFlush (ls : List (List Char)) : Bool :=
  (ls.find? fun l => !isIdle l).all fun l => (measureIndent 0 0 l).1 == 0

/-- Nothing was read so far. -/
structure Fresh (st : LexState) : Prop where
  brackets : st.brackets = []
  indents : st.indents = [(0, 0)]
  contents : st.contents = []

theorem fresh_start : Fresh {} := ⟨rfl, rfl, rfl⟩

theorem Fresh.next {st : LexState} (h : Fresh st) : Fresh st.next :=
  ⟨h.brackets, h.indents, h.contents⟩

/-- The next line with something on it is to stand behind `k` blanks: it opens a block there, or the
block is open. -/
structure Ready (k : Nat) (outer : List (Nat × Nat)) (pre : List Token) (st : LexState) : Prop where
  brackets : st.brackets = []
  contents : st.contents = pre
  indents : st.indents = (k, k) :: outer ∨
    ∃ q ps, st.indents = q :: ps ∧ outer = q :: ps ∧ Deeper (k, k) q

section Starting

variable {k : Nat} {outer : List (Nat × Nat)} {pre : List Token} {st st' : LexState}

theorem Ready.next (h : Ready k outer pre st) : Ready k outer pre st.next :=
  ⟨h.brackets, h.contents, h.indents⟩

theorem shift_zero (k : Nat) : shift k (0, 0) = (k, k) := by simp [shift]

theorem isMargin_zero (k : Nat) : IsMargin k (0, 0) := .inr ⟨0, 0, rfl⟩

/-- From its first line on, a fragment is read in the block as outside of it. -/
theorem Ready.indentTo (h : Ready k outer pre st') (hf : Fresh st) :
    ∃ st₁', st'.indentTo k k = .ok st₁' ∧ Shifted k outer pre st st₁' := by
  have hshifted {st₁' : LexState} (hb : st₁'.brackets = st'.brackets)
      (hc : st₁'.contents = st'.contents) (hi : st₁'.indents = (k, k) :: outer) :
      Shifted k outer pre st st₁' := by
    refine ⟨by rw [hb, h.brackets, hf.brackets], ?_, ?_, ?_, ?_⟩
    · rw [hi, hf.indents, List.map_singleton, shift_zero]
      rfl
    · rw [hc, h.contents, hf.contents, List.append_nil]
    · rw [hf.indents]
      exact List.forall_mem_singleton.mpr (isMargin_zero k)
    · rw [hf.indents]
      exact List.pairwise_singleton _ _
  rcases h.indents with hi | ⟨q, ps, hi, rfl, hlt⟩
  · exact ⟨st', LexState.indentTo_same (p := (k, k)) hi, hshifted rfl rfl hi⟩
  · exact ⟨_, LexState.indentTo_open (p := (k, k)) hi hlt,
      hshifted rfl (by simp [LexState.contents_push, Token.isContent]; rfl) rfl⟩

theorem readTo_idle {l : List Char} (h : isIdle l = true) : st.readTo false l = some (false, st) := by
  unfold isIdle at h
  rcases hm : measureIndent 0 0 l with ⟨col, alt, _ | ⟨c, r⟩⟩
  · simp [LexState.readTo, hm]
  · simp only [hm, Bool.and_eq_true, Bool.not_eq_true', List.contains_eq_mem,
      decide_eq_false_iff_not] at h
    simp [LexState.readTo, hm, h]

theorem isIdle_padded {l : List Char} (htabs : k = 0 ∨ tabsFirst l = true) (h : isIdle l = true) :
    isIdle (padded k l) = true := by
  unfold padded
  split_ifs
  · rfl
  · obtain ⟨p, r, -, hm, hshift⟩ := measureIndent_shift htabs
    simpa [isIdle, hm, hshift] using h

/-- The first line with something on it. -/
theorem Ready.readLine (h : Ready k outer pre st') (hf : Fresh st) {l : List Char}
    (htabs : k = 0 ∨ tabsFirst l = true) (hidle : isIdle l = false)
    (hflush : (measureIndent 0 0 l).1 = 0) {q : Bool × LexState}
    (hq : LexState.readLine (false, st) l = some q) :
    ∃ st₁', LexState.readLine (false, st') (padded k l) = some (q.1, st₁') ∧
      Shifted k outer pre q.2 st₁' := by
  obtain ⟨q', hq', rfl⟩ := Option.map_eq_some_iff.mp hq
  have hne : l ≠ [] := by
    rintro rfl
    cases hidle
  obtain ⟨p, r, -, hm, hshift⟩ := measureIndent_shift htabs
  have hzero := measureIndent_zero hflush fun _ => rfl
  rw [hm] at hflush hzero
  obtain rfl : p = (0, 0) := Prod.ext hflush hzero
  rw [shift_zero] at hshift
  obtain ⟨st₂', hst₂', h₂⟩ := h.indentTo hf
  cases r with
  | nil => simp [isIdle, hm] at hidle
  | cons c r =>
    have hc : ¬ (c == '#') = true := by
      intro hc
      have hfeed : '\n' ∈ r := by simpa [isIdle, hm, hc] using hidle
      simp [LexState.readTo, hm, hc, hfeed] at hq'
    have hsame := LexState.indentTo_same (p := (0, 0)) hf.indents
    simp only [LexState.readTo, hm, if_neg hc, hsame, Bool.false_eq_true, if_false] at hq'
    obtain ⟨st₁', hst₁', h₁⟩ := h₂.readRest hq' 0
    refine ⟨st₁'.next, ?_, h₁.next⟩
    have hread : st'.readTo false (padded k l) = some (q'.1, st₁') := by
      rw [padded, if_neg hne]
      simp only [LexState.readTo, hshift, if_neg hc, hst₂', Bool.false_eq_true, if_false]
      exact hst₁'
    rw [LexState.readLine, hread]
    rfl

/-- **The lines of a fragment are read in a block as outside of it,** the first one included. -/
theorem Ready.readLines (h : Ready k outer pre st') (hf : Fresh st) {ls : List (List Char)}
    (htabs : ∀ l ∈ ls, k = 0 ∨ tabsFirst l = true) (hflush : isFlush ls = true) {q : Bool × LexState}
    (hq : LexState.readLines (false, st) ls = some q) :
    ∃ st₁', LexState.readLines (false, st') (ls.map (padded k)) = some (q.1, st₁') ∧
      st₁'.contents = pre ++ q.2.contents := by
  induction ls generalizing st st' with
  | nil =>
    obtain rfl := Option.some.inj hq
    exact ⟨st', rfl, by rw [h.contents, hf.contents, List.append_nil]⟩
  | cons l ls ih =>
    have htabs' : ∀ l ∈ ls, k = 0 ∨ tabsFirst l = true := fun l hl => htabs l (List.mem_cons_of_mem _ hl)
    obtain ⟨⟨inside₁, st₁⟩, hq₁, hrest⟩ := Option.bind_eq_some_iff.mp hq
    cases hidle : isIdle l with
    | true =>
      have hstep {st : LexState} {l : List Char} (h : isIdle l = true) :
          LexState.readLine (false, st) l = some (false, st.next) := by
        rw [LexState.readLine, readTo_idle h]
        rfl
      rw [hstep hidle] at hq₁
      obtain ⟨rfl, rfl⟩ := Prod.mk.inj (Option.some.inj hq₁)
      have hflush' : isFlush ls = true := by simpa [isFlush, hidle] using hflush
      obtain ⟨st₁', hst₁', hcontents⟩ := ih h.next hf.next htabs' hflush' hrest
      refine ⟨st₁', ?_, hcontents⟩
      rw [List.map_cons, LexState.readLines, List.foldlM_cons,
        hstep (isIdle_padded (htabs l List.mem_cons_self) hidle)]
      exact hst₁'
    | false =>
      have hcol : (measureIndent 0 0 l).1 = 0 := by simpa [isFlush, hidle] using hflush
      obtain ⟨st₂', hst₂', h₂⟩ := h.readLine hf (htabs l List.mem_cons_self) hidle hcol hq₁
      obtain ⟨st₁', hst₁', h₁⟩ := h₂.readLines htabs' hrest
      refine ⟨st₁', ?_, h₁.contents⟩
      rw [List.map_cons, LexState.readLines, List.foldlM_cons, hst₂']
      exact hst₁'

end Starting

end Facade.Syntax
