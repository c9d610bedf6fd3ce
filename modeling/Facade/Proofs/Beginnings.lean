import Facade.Proofs.Indenting
import Facade.Syntax.Reader

/-!
# Where the first statement of a source begins

The first statement of a source that can be read is not indented. So some line, if lines are cut at
every character that can end one, opens with it, whatever blanks, comments and form feeds there are in
front of it.

* `lexemes_prefix`: reading tokens keeps those that were read.
* `module_indented`: tokens that open with an indentation are no source.
* `readModule_idle`: a source of blank lines and comments has no statements.
* `Begins`, `begins_of_readModule`: a source with a statement has a line that opens with it.
* `Begins.splitLines`: so have the lines that it is split into.
-/

namespace Facade.Syntax

open Text

/-! ## Tokens that were read -/

section Tokens

variable {st st' : LexState} {ls : List Lexeme}

theorem LexState.prefix_of_push {t : Token} (h : (st.push t).lexemes.reverse <+: ls) :
    st.lexemes.reverse <+: ls :=
  (List.prefix_append _ _).trans (by simpa [push] using h)

theorem LexState.prefix_push (st : LexState) (t : Token) :
    st.lexemes.reverse <+: (st.push t).lexemes.reverse :=
  prefix_of_push List.prefix_rfl

theorem LexState.prefix_close (st : LexState) (n : Nat) :
    st.lexemes.reverse <+: (st.close n).lexemes.reverse := by
  unfold close
  induction n with
  | zero => exact List.prefix_rfl
  | succ n ih =>
    rw [List.range_succ, List.foldl_append]
    exact ih.trans (prefix_push _ _)

theorem LexState.prefix_indentTo {col alt : Nat} (h : st.indentTo col alt = .ok st') :
    st.lexemes.reverse <+: st'.lexemes.reverse := by
  rcases indentTo_cases (p := (col, alt)) h with
    ⟨-, -, rfl⟩ | ⟨q, ps, -, -, rfl⟩ | ⟨ds, ps, -, -, -, rfl⟩
  · exact List.prefix_rfl
  · exact prefix_push { st with indents := (col, alt) :: q :: ps } .indent
  · exact prefix_close { st with indents := (col, alt) :: ps } _

theorem prefix_finish (st : LexState) : st.lexemes.reverse <+: (lexFrom.finish st).lexemes := by
  have hclose (ps : List (Nat × Nat)) (st : LexState) : st.lexemes.reverse <+:
      (ps.foldl (fun st _ => st.push .dedent) st).lexemes.reverse := by
    induction ps generalizing st with
    | nil => exact List.prefix_rfl
    | cons p ps ih => exact (st.prefix_push .dedent).trans (ih _)
  exact (hclose _ st).trans (LexState.prefix_push _ _)

/-- **Reading tokens keeps those that were read.** -/
theorem lexemes_prefix (fuel : Nat) : ∀ (b : Bool) (st : LexState) (cs : List Char),
    st.lexemes.reverse <+: (lexFrom fuel b st cs).lexemes := by
  induction fuel with
  | zero =>
    intro b st cs
    rw [lexFrom]
    exact List.prefix_rfl
  | succ fuel ih =>
    intro b st cs
    have hkept {b : Bool} {st' : LexState} {cs : List Char} (h : st'.lexemes = st.lexemes) :
        st.lexemes.reverse <+: (lexFrom fuel b st' cs).lexemes := h ▸ ih b st' cs
    have hpushed {b : Bool} {st' : LexState} {cs : List Char} {x : Lexeme}
        (h : st'.lexemes = x :: st.lexemes) :
        st.lexemes.reverse <+: (lexFrom fuel b st' cs).lexemes :=
      (List.prefix_append st.lexemes.reverse [x]).trans (by simpa [h] using ih b st' cs)
    have hliteral (marks cs : List Char) :
        st.lexemes.reverse <+: (lexFrom.literal fuel st marks cs).lexemes := by
      rw [lexFrom.literal]
      split
      · exact hpushed rfl
      · exact List.prefix_rfl
    cases b with
    | true =>
      rw [lexFrom.eq_def]
      dsimp only
      rcases measureIndent 0 0 cs with ⟨col, alt, r⟩
      dsimp only
      split
      · exact prefix_finish st
      · exact hkept rfl
      · exact hkept rfl
      · split
        · exact List.prefix_rfl
        · rename_i hindent
          exact (LexState.prefix_indentTo hindent).trans (ih _ _ _)
    | false =>
      rw [lexFrom.eq_def]
      dsimp only
      repeat' split
      all_goals first
        | exact hkept rfl
        | exact hpushed rfl
        | exact hliteral _ _
        | exact List.prefix_rfl
        | exact LexState.prefix_of_push List.prefix_rfl
        | exact LexState.prefix_of_push (prefix_finish _)

end Tokens

/-! ## Sources -/

theorem of_readModule {text : String} {ss : List Stmt} (h : readModule text = .ok ss) :
    (lex text).fault = none ∧
      (Reader.module (30 * ((lex text).lexemes.length + 2))).run' (lex text).lexemes = .ok ss := by
  unfold readModule runReader at h
  split at h
  · rename_i hread hfault
    obtain rfl := Except.ok.inj h
    exact ⟨hfault, hread⟩
  all_goals cases h

/-- Tokens that open with an indentation are no source. -/
theorem module_indented (fuel n : Nat) (ls : List Lexeme) :
    (Reader.module (fuel + 60)).run' (⟨.indent, n⟩ :: ls) = .error (.unexpected .indent) := rfl

theorem module_finished (fuel n : Nat) : (Reader.module fuel).run' [⟨.finish, n⟩] = .ok [] := rfl

/-- **A source of blank lines and comments** has no statements. -/
theorem readModule_idle {text : String} (h : ∀ l ∈ sourceLines text.toList, isIdle l = true) :
    readModule text = .ok [] := by
  have hread (ls : List (List Char)) : (∀ l ∈ ls, isIdle l = true) → ∀ st : LexState,
      ∃ st', LexState.readLines (false, st) ls = some (false, st') ∧ st'.tokens = st.tokens ∧
        st'.indents = st.indents := by
    induction ls with
    | nil => exact fun _ st => ⟨st, rfl, rfl, rfl⟩
    | cons l ls ih =>
      intro h st
      obtain ⟨st', hst', htokens, hindents⟩ := ih (fun l hl => h l (List.mem_cons_of_mem _ hl)) st.next
      refine ⟨st', ?_, htokens, hindents⟩
      rw [LexState.readLines, List.foldlM_cons, LexState.readLine, readTo_idle (h l List.mem_cons_self)]
      exact hst'
  obtain ⟨st, hst, htokens, hindents⟩ := hread _ h {}
  obtain ⟨hfault, hlex⟩ := lex_of_readLines (isCutInto_linesOf _) hst
  rw [htokens, LexState.closers, hindents] at hlex
  obtain ⟨⟨t, n⟩, hlexemes, rfl⟩ := List.map_eq_singleton_iff.mp hlex
  rw [readModule, runReader, hfault, hlexemes, module_finished]

/-! ## The first line with something on it -/

/-- Whether lines end where a text does. -/
def EndsLines (p : List Char) : Prop := ∀ e ∈ p.getLast?, isLineEnd e = true

/-- A text has a line that opens with neither a blank nor a comment, if lines are cut at every character
that can end one. -/
def Begins (cs : List Char) : Prop :=
  ∃ p c r, cs = p ++ c :: r ∧ EndsLines p ∧ isBlank c = false ∧ c ≠ '#'

theorem isBlank_of_isLineEnd {c : Char} (h : isLineEnd c = true) : isBlank c = true := by
  simp [isLineEnd, isBlank, inRanges] at h ⊢
  omega

section Ends

variable {p q cs : List Char}

theorem endsLines_nil : EndsLines [] := by
  intro e he
  cases he

theorem EndsLines.after (hq : EndsLines q) (hne : q ≠ []) (p : List Char) : EndsLines (p ++ q) := by
  intro e he
  rw [List.getLast?_append_of_ne_nil _ hne] at he
  exact hq e he

theorem endsLines_concat (p : List Char) {e : Char} (he : isLineEnd e = true) : EndsLines (p ++ [e]) := by
  refine EndsLines.after ?_ (by simp) p
  rintro d hd
  exact Option.some.inj hd ▸ he

theorem EndsLines.behind (hq : EndsLines q) (hp : EndsLines p) : EndsLines (p ++ q) := by
  cases q with
  | nil => rwa [List.append_nil]
  | cons d q => exact hq.after (by simp) p

theorem EndsLines.tail {c : Char} (h : EndsLines (c :: p)) : EndsLines p := by
  intro e he
  cases p with
  | nil => cases he
  | cons d p => exact h e (by rwa [List.getLast?_cons_cons])

theorem Begins.behind (h : Begins cs) (hp : EndsLines p) : Begins (p ++ cs) := by
  obtain ⟨q, c, r, rfl, hq, hc⟩ := h
  exact ⟨p ++ q, c, r, by rw [List.append_assoc], hq.behind hp, hc⟩

end Ends

/-- What stands in front of a line that is not indented ends with a form feed, if there is anything. -/
theorem exists_of_flush (col alt : Nat) (cs : List Char) : (measureIndent col alt cs).1 = 0 →
    ∃ p, cs = p ++ (measureIndent col alt cs).2.2 ∧ EndsLines p ∧ (p = [] → col = 0) := by
  fun_induction measureIndent col alt cs with
  | case1 col alt r ih =>
    intro h
    obtain ⟨p, hp, hends, hnil⟩ := ih h
    have hne : p ≠ [] := fun hp => Nat.succ_ne_zero _ (hnil hp)
    exact ⟨' ' :: p, by rw [List.cons_append, ← hp], hends.after hne [' '],
      (absurd · (List.cons_ne_nil _ _))⟩
  | case2 col alt r ih =>
    intro h
    obtain ⟨p, hp, hends, hnil⟩ := ih h
    have hne : p ≠ [] := fun hp => absurd (hnil hp) (by omega)
    exact ⟨'\t' :: p, by rw [List.cons_append, ← hp], hends.after hne ['\t'],
      (absurd · (List.cons_ne_nil _ _))⟩
  | case3 col alt r ih =>
    intro h
    obtain ⟨p, hp, hends, -⟩ := ih h
    refine ⟨'\x0c' :: p, by rw [List.cons_append, ← hp], ?_, (absurd · (List.cons_ne_nil _ _))⟩
    cases p with
    | nil => exact endsLines_concat [] (by decide)
    | cons d p => exact hends.after (by simp) ['\x0c']
  | case4 col alt cs => exact fun h => ⟨[], rfl, endsLines_nil, fun _ => h⟩

/-- No token opens with a blank that may not stand inside a line. -/
theorem fault_blank {c : Char} (hblank : isBlank c = true) (hspace : isSpace c = false)
    (hfeed : c ≠ '\n') (fuel : Nat) (st : LexState) (r : List Char) :
    (lexFrom fuel false st (c :: r)).fault ≠ none := by
  have hplain := forall_isBlank (P := fun c => (c == '\'' || c == '"') = false ∧
    c.isDigit = false ∧ (c == '.') = false ∧ c ≠ '#' ∧ c ≠ '\\') (by decide) hblank
  have hends : Ends (c :: r) := fun d hd => Option.some.inj hd ▸ hblank
  have hsign : readSign? (c :: r) = none := by
    simpa [readSign?, signs3, signs2] using readSign?_ends hends []
  cases fuel with
  | zero => simp [lexFrom, LexState.stop]
  | succ fuel =>
    have hlayout : (c == ' ' || c == '\t' || c == '\x0c') = false := hspace
    rw [lexFrom.eq_def]
    dsimp only
    split
    · simp_all
    · simp_all
    · simp_all
    · simp_all
    · rename_i h
      obtain ⟨rfl, rfl⟩ := List.cons.inj h
      simp [hlayout, (identifier_of_isBlank hblank).1, hplain, hsign, LexState.stop]

/-- What follows a comment opens with a line feed, which is no statement, so a statement behind it stands
in a later line. -/
theorem Begins.behind_comment {r : List Char} (h : Begins (r.dropWhile (· != '\n'))) (p : List Char) :
    Begins (p ++ '#' :: r) := by
  obtain ⟨q, c, r', hsplit, hends, hblank, hhash⟩ := h
  have hne : q ≠ [] := by
    rintro rfl
    have hhead := List.head?_dropWhile_not (fun d : Char => d != '\n') r
    rw [hsplit] at hhead
    obtain rfl : c = '\n' := by simpa using hhead
    cases hblank
  refine ⟨p ++ '#' :: r.takeWhile (· != '\n') ++ q, c, r', ?_, hends.after hne _, hblank, hhash⟩
  rw [List.append_assoc, ← hsplit, List.append_assoc, List.cons_append, List.takeWhile_append_dropWhile]

/-- A line that is not indented opens with its first token. -/
theorem begins_of_flush {cs : List Char} {c : Char} {r : List Char}
    (hcol : (measureIndent 0 0 cs).1 = 0) (hr : (measureIndent 0 0 cs).2.2 = c :: r)
    (hfeed : c ≠ '\n') (hhash : c ≠ '#') {fuel : Nat} {st : LexState}
    (hfault : (lexFrom fuel false st (c :: r)).fault = none) : Begins cs := by
  obtain ⟨p, hp, hends, -⟩ := exists_of_flush 0 0 cs hcol
  rw [hr] at hp
  refine ⟨p, c, r, hp, hends, ?_, hhash⟩
  rw [← Bool.not_eq_true]
  exact fun hblank => fault_blank hblank ((measureIndent_isSpace 0 0 cs).1 c r hr) hfeed _ _ _ hfault

/-- **Reading tokens from the start of a line** finds nothing, or an indentation, or the front of a
line, if it finds no fault. -/
theorem lexFrom_begins (fuel : Nat) : ∀ (st : LexState) (cs : List Char), st.indents = [(0, 0)] →
    st.lexemes = [] → (lexFrom fuel true st cs).fault = none →
      (∃ n, (lexFrom fuel true st cs).lexemes = [⟨.finish, n⟩]) ∨
        (∃ n ls, (lexFrom fuel true st cs).lexemes = ⟨.indent, n⟩ :: ls) ∨ Begins cs := by
  induction fuel with
  | zero => exact fun st cs _ _ h => absurd h (by simp [lexFrom, LexState.stop])
  | succ fuel ih =>
    intro st cs hindents hlexemes
    have hsuffix := measureIndent_suffix 0 0 cs
    have hflush := @begins_of_flush cs
    rw [lexFrom.eq_def]
    dsimp only
    rcases hm : measureIndent 0 0 cs with ⟨col, alt, r⟩
    rw [hm] at hsuffix hflush
    dsimp only at hsuffix hflush ⊢
    obtain ⟨p, hp⟩ := hsuffix
    split
    · intro _
      refine .inl ⟨st.line, ?_⟩
      simp [lexFrom.finish, hindents, hlexemes, LexState.push, LexState.stop]
    · rename_i r
      intro h
      refine (ih { st with line := st.line + 1 } r hindents hlexemes h).imp_right (Or.imp_right ?_)
      intro hbegins
      rw [← hp, List.append_cons]
      exact hbegins.behind (endsLines_concat p (by decide))
    · rename_i r
      intro h
      refine (ih st _ hindents hlexemes h).imp_right (Or.imp_right fun hbegins => ?_)
      rw [← hp]
      exact hbegins.behind_comment p
    · rename_i hnil hfeed hhash
      obtain ⟨c, r, rfl⟩ := List.exists_cons_of_ne_nil hnil
      cases hto : st.indentTo col alt with
      | error e => exact fun h => absurd h (by simp [LexState.stop])
      | ok st' =>
        intro h
        -- the first line has no outer one, so it stands at its start or opens a block
        rcases LexState.indentTo_cases (p := (col, alt)) hto with
          ⟨ps, hsame, rfl⟩ | ⟨q, ps, -, -, rfl⟩ | ⟨ds, ps, hne, hclose, -, -⟩
        · obtain ⟨hcol, -⟩ := Prod.mk.inj (List.cons.inj (hindents.symm.trans hsame)).1
          refine .inr (.inr (hflush hcol.symm rfl ?_ ?_ h))
          · rintro rfl
            exact hfeed r rfl
          · rintro rfl
            exact hhash r rfl
        · obtain ⟨ls, hls⟩ := lexemes_prefix fuel false
            ({ st with indents := (col, alt) :: q :: ps }.push .indent) (c :: r)
          refine .inr (.inl ⟨st.line, ls, ?_⟩)
          rw [← hls]
          simp [LexState.push, hlexemes]
        · have hlen := congrArg List.length (hindents.symm.trans hclose)
          simp only [List.length_cons, List.length_nil, List.length_append] at hlen
          exact absurd (List.length_eq_zero_iff.mp (by omega)) hne

/-- Line ends of every kind end lines. -/
theorem split_of_normalizeFeeds {cs : List Char} {c : Char} (hc : isBlank c = false) :
    ∀ {p r : List Char}, normalizeFeeds cs = p ++ c :: r → EndsLines p →
      ∃ p' r', cs = p' ++ c :: r' ∧ EndsLines p' ∧ (p' = [] → p = []) := by
  have hfeed : c ≠ '\n' := by
    rintro rfl
    cases hc
  fun_induction normalizeFeeds cs with
  | case1 => exact fun h => absurd h (by simp)
  | case2 cs ih =>
    intro p r h hends
    rcases p with _ | ⟨d, p⟩
    · exact absurd (List.cons.inj h).1.symm hfeed
    · obtain ⟨p', r', rfl, hends', -⟩ := ih (List.cons.inj h).2 hends.tail
      exact ⟨'\r' :: '\n' :: p', r', rfl, hends'.behind (endsLines_concat ['\r'] (by decide)),
        (absurd · (List.cons_ne_nil _ _))⟩
  | case3 cs hnot ih =>
    intro p r h hends
    rcases p with _ | ⟨d, p⟩
    · exact absurd (List.cons.inj h).1.symm hfeed
    · obtain ⟨p', r', rfl, hends', -⟩ := ih (List.cons.inj h).2 hends.tail
      exact ⟨'\r' :: p', r', rfl, hends'.behind (endsLines_concat [] (by decide)),
        (absurd · (List.cons_ne_nil _ _))⟩
  | case4 d cs h₁ h₂ ih =>
    intro p r h hends
    rcases p with _ | ⟨e, p⟩
    · obtain ⟨rfl, -⟩ := List.cons.inj h
      exact ⟨[], cs, rfl, endsLines_nil, fun _ => rfl⟩
    · obtain rfl := (List.cons.inj h).1
      obtain ⟨p', r', rfl, hends', hnil⟩ := ih (List.cons.inj h).2 hends.tail
      refine ⟨d :: p', r', rfl, ?_, (absurd · (List.cons_ne_nil _ _))⟩
      cases p' with
      | nil => rwa [hnil rfl] at hends
      | cons e p' => exact hends'.after (by simp) [d]

theorem Begins.of_normalizeFeeds {cs : List Char} (h : Begins (normalizeFeeds cs)) : Begins cs := by
  obtain ⟨p, c, r, h, hends, hblank, hhash⟩ := h
  obtain ⟨p', r', hsplit, hends', -⟩ := split_of_normalizeFeeds hblank h hends
  exact ⟨p', c, r', hsplit, hends', hblank, hhash⟩

/-- **A source with a statement has a line that opens with it.** -/
theorem begins_of_readModule {text : String} {s : Stmt} {ss : List Stmt}
    (h : readModule text = .ok (s :: ss)) : Begins text.toList := by
  obtain ⟨hfault, hread⟩ := of_readModule h
  refine Begins.of_normalizeFeeds ?_
  unfold lex at hfault hread
  rcases lexFrom_begins _ _ _ rfl rfl hfault with ⟨n, hfinish⟩ | ⟨n, ls, hindent⟩ | hbegins
  · rw [hfinish] at hread
    cases hread
  · have hlen : 30 * ((⟨.indent, n⟩ :: ls : List Lexeme).length + 2) = 30 * (ls.length + 1) + 60 := by
      rw [List.length_cons, Nat.mul_add]
    rw [hindent, hlen, module_indented] at hread
    cases hread
  · exact hbegins

/-! ## Lines that are split -/

/-- What stands behind a line end opens a line; it is the first line if nothing stands in front. -/
theorem splitLinesKeep_split {cs : List Char} {c : Char} (hc : isLineEnd c = false) :
    ∀ {p r : List Char}, cs = p ++ c :: r → EndsLines p →
      (p = [] → ∃ l ls, splitLinesKeep cs = (c :: l) :: ls) ∧
        (p ≠ [] → ∃ l, c :: l ∈ (splitLinesKeep cs).tail) := by
  have hne {d : Char} (hd : isLineEnd d = true) : d ≠ c := by
    rintro rfl
    rw [hd] at hc
    cases hc
  have hlater {ls : List (List Char)} {p : List Char}
      (h : (p = [] → ∃ l ls', ls = (c :: l) :: ls') ∧ (p ≠ [] → ∃ l, c :: l ∈ ls.tail)) :
      ∃ l, c :: l ∈ ls := by
    by_cases hp : p = []
    · obtain ⟨l, ls', rfl⟩ := h.1 hp
      exact ⟨l, List.mem_cons_self⟩
    · obtain ⟨l, hl⟩ := h.2 hp
      exact ⟨l, List.mem_of_mem_tail hl⟩
  fun_induction splitLinesKeep cs with
  | case1 => exact fun h => absurd h (by simp)
  | case2 cs ih =>
    intro p r h hends
    rcases p with _ | ⟨d, _ | ⟨e, p⟩⟩
    · exact absurd (List.cons.inj h).1 (hne (by decide))
    · exact absurd (List.cons.inj (List.cons.inj h).2).1 (hne (by decide))
    · exact ⟨(absurd · (List.cons_ne_nil _ _)),
        fun _ => hlater (ih (List.cons.inj (List.cons.inj h).2).2 hends.tail.tail)⟩
  | case3 d cs hnot hd ih =>
    intro p r h hends
    rcases p with _ | ⟨e, p⟩
    · exact absurd (List.cons.inj h).1 (hne hd)
    · exact ⟨(absurd · (List.cons_ne_nil _ _)), fun _ => hlater (ih (List.cons.inj h).2 hends.tail)⟩
  | case4 d cs hnot hd ih =>
    intro p r h hends
    rcases p with _ | ⟨e, p⟩
    · obtain ⟨rfl, -⟩ := List.cons.inj h
      refine ⟨fun _ => ?_, fun h => absurd rfl h⟩
      cases splitLinesKeep cs with
      | nil => exact ⟨[], [], rfl⟩
      | cons l ls => exact ⟨l, ls, rfl⟩
    · obtain rfl := (List.cons.inj h).1
      have hp : p ≠ [] := by
        rintro rfl
        exact hd (hends _ rfl)
      refine ⟨(absurd · (List.cons_ne_nil _ _)), fun _ => ?_⟩
      obtain ⟨l, hl⟩ := (ih (List.cons.inj h).2 hends.tail).2 hp
      cases hs : splitLinesKeep cs with
      | nil =>
        rw [hs] at hl
        cases hl
      | cons l' ls =>
        rw [hs] at hl
        exact ⟨l, hl⟩

/-- **The lines that a text is split into** open as the text says. -/
theorem Begins.splitLines {cs : List Char} (h : Begins cs) :
    ∃ c l, c :: l ∈ Text.splitLines cs ∧ isBlank c = false ∧ c ≠ '#' := by
  obtain ⟨p, c, r, hsplit, hends, hblank, hhash⟩ := h
  have hend : isLineEnd c = false := by
    rw [← Bool.not_eq_true]
    intro h
    rw [isBlank_of_isLineEnd h] at hblank
    cases hblank
  obtain ⟨hfirst, hlater⟩ := splitLinesKeep_split hend hsplit hends
  obtain ⟨l, hl⟩ : ∃ l, c :: l ∈ splitLinesKeep cs := by
    by_cases hp : p = []
    · obtain ⟨l, ls, hls⟩ := hfirst hp
      exact ⟨l, hls ▸ List.mem_cons_self⟩
    · obtain ⟨l, hl⟩ := hlater hp
      exact ⟨l, List.mem_of_mem_tail hl⟩
  refine ⟨c, l.takeWhile fun c => !isLineEnd c, List.mem_map.mpr ⟨c :: l, hl, ?_⟩, hblank, hhash⟩
  rw [List.takeWhile_cons_of_pos (by simp [hend])]

end Facade.Syntax
