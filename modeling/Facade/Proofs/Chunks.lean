import Facade.Proofs.Grammar
import Facade.Proofs.Indenting

/-!
# Lines of a block

Whole lines of a source, at one level of indentation, are read as lexemes whatever stands behind them.
Blocks that are still open behind the last of them are closed by the line that comes next, or by the end
of the source.

* `Leads`: the tokens with which a line of a level begins.
* `lexFrom_row`: a line with tokens.
* `Chunk`: lines that are read as lexemes; `Chunk.append`, `Chunk.block` put chunks together.
* `Chunk.lex`: a whole source.
-/

namespace Facade.Syntax

open Text Reader

/-! ## Margins -/

/-- The margins of a level and of those around it. -/
def margins : Nat → List (Nat × Nat)
  | 0 => [(0, 0)]
  | level + 1 => (4 * (level + 1), 4 * (level + 1)) :: margins level

theorem exists_margins (level : Nat) : ∃ ps, margins level = (4 * level, 4 * level) :: ps := by
  cases level <;> exact ⟨_, rfl⟩

theorem length_margins_zero (ds : List (Nat × Nat)) : ((ds ++ margins 0).drop 1).length = ds.length := by
  simp [margins]

/-- As many blocks of a level and deeper ones are open. -/
def Behind (st : LexState) (level n : Nat) : Prop :=
  ∃ ds, st.indents = ds ++ margins level ∧ (∀ q ∈ ds, 4 * level < q.1) ∧ ds.length = n

/-- The tokens with which a line of a level begins: the blocks that it closes, or the one that it opens. -/
inductive Leads (st : LexState) : Nat → List Token → Prop
  | closes {level n : Nat} (h : Behind st level n) : Leads st level (List.replicate n .dedent)
  | opens {level : Nat} (h : st.indents = margins level) : Leads st (level + 1) [.indent]

/-- Where lines of a block end, one more block is open around. -/
theorem Behind.around {st : LexState} {level n : Nat} (h : Behind st (level + 1) n) :
    Behind st level (n + 1) := by
  obtain ⟨ds, hds, hdeep, rfl⟩ := h
  refine ⟨ds ++ [(4 * (level + 1), 4 * (level + 1))], by simp [hds, margins], ?_, by simp⟩
  intro q hq
  rcases List.mem_append.mp hq with hq | hq
  · have := hdeep q hq
    omega
  · obtain rfl := List.mem_singleton.mp hq
    dsimp only
    omega

theorem LexState.foldl_dedent {α : Type} (l : List α) (st : LexState) :
    l.foldl (fun st _ => st.push .dedent) st = st.pushAll (List.replicate l.length .dedent) := by
  induction l generalizing st with
  | nil => rfl
  | cons a l ih =>
    rw [List.foldl_cons, ih, List.length_cons, List.replicate_succ, ← List.singleton_append,
      pushAll_append]
    rfl

theorem Leads.indentTo {st : LexState} {level : Nat} {pre : List Token} (h : Leads st level pre) :
    st.indentTo (4 * level) (4 * level) = .ok { st.pushAll pre with indents := margins level } := by
  cases h with
  | @closes _ n h =>
    obtain ⟨ds, hds, hdeep, rfl⟩ := h
    obtain ⟨ps, hps⟩ := exists_margins level
    by_cases hnil : ds = []
    · subst hnil
      rw [List.nil_append, hps] at hds
      refine (LexState.indentTo_same (p := (4 * level, 4 * level)) hds).trans ?_
      rw [hps, ← hds]
      rfl
    · rw [hps] at hds
      refine (LexState.indentTo_close (p := (4 * level, 4 * level)) hds hdeep hnil).trans ?_
      rw [LexState.close, LexState.foldl_dedent, List.length_range, hps]
      rfl
  | @opens level h =>
    obtain ⟨ps, hps⟩ := exists_margins level
    have hdeep : Deeper (4 * (level + 1), 4 * (level + 1)) (4 * level, 4 * level) := by
      simp only [Deeper]
      omega
    rw [hps] at h
    refine (LexState.indentTo_open (p := (4 * (level + 1), 4 * (level + 1))) h hdeep).trans ?_
    rw [margins, hps]
    rfl

/-! ## One line -/

/-- The state behind a line of a level, with the tokens that the line begins with and its own. -/
def LexState.row (st : LexState) (level : Nat) (ts : List Token) : LexState :=
  { st.pushAll (ts ++ [Token.newline]) with indents := margins level }.next

/-- A text opens with a piece. -/
def OpensPiece (cs : List Char) : Prop := ∃ c r, cs = c :: r ∧ isLayout c = false

/-- **A line is read as its tokens.** -/
theorem lexFrom_row {ok : List Char → Prop} {cs : List Char} {ts : List Token} (h : Lexes ok cs ts)
    (hok : ∀ rest, ok ('\n' :: rest)) (hopen : OpensPiece cs) :
    ∃ k ≤ cs.length, ∀ {st : LexState} {level : Nat} {pre : List Token}, st.brackets = [] →
      Leads st level pre → ∀ fuel rest,
        lexFrom (fuel + 1 + k + 1) true st (List.replicate (4 * level) ' ' ++ (cs ++ '\n' :: rest)) =
          lexFrom fuel true (st.row level (pre ++ ts)) rest := by
  obtain ⟨k, hk, hread⟩ := h.reads
  obtain ⟨c, r, rfl, hc⟩ := hopen
  refine ⟨k, hk, fun {st level pre} hst hpre fuel rest => ?_⟩
  have hlayout := hc
  simp only [isLayout, List.contains_eq_mem, List.mem_cons, List.not_mem_nil, or_false,
    decide_eq_false_iff_not, not_or] at hlayout
  obtain ⟨hspace, htab, hform, hfeed, -, hhash, -⟩ := hlayout
  have hmeasure : measureIndent 0 0 (List.replicate (4 * level) ' ' ++ (c :: r ++ '\n' :: rest)) =
      (4 * level, 4 * level, c :: (r ++ '\n' :: rest)) := by
    rw [measureIndent_blanks, List.cons_append, measureIndent_flush (by simp [isSpace, hspace, htab, hform])]
    simp
  have hline := hread (fuel + 1) { st.pushAll pre with indents := margins level } ('\n' :: rest) (hok rest)
  have hbrackets : ({ st.pushAll pre with indents := margins level }.pushAll ts).brackets.isEmpty = true := by
    show st.brackets.isEmpty = true
    rw [hst]
    rfl
  have hstart : lexFrom (fuel + 1 + k + 1) true st
      (List.replicate (4 * level) ' ' ++ (c :: r ++ '\n' :: rest)) = lexFrom (fuel + 1 + k) false
        { st.pushAll pre with indents := margins level } (c :: r ++ '\n' :: rest) := by
    rw [lexFrom, hmeasure]
    simp [hfeed, hhash, hpre.indentTo]
  rw [hstart, hline, lexFrom, if_pos hbrackets]
  congr 1
  simp [LexState.row, LexState.pushAll, LexState.push, LexState.next]

/-! ## Chunks -/

/-- Whole lines at a level are read as lexemes of which something is known, together with those that
close the blocks that are still open behind them. -/
def Chunk (level : Nat) (cs : List Char) (P : List Lexeme → Prop) : Prop :=
  '\r' ∉ cs ∧ ∃ k ≤ 2 * cs.length, ∀ {st : LexState} {pre : List Token}, st.brackets = [] →
    Leads st level pre → ∃ st' ls n m, st'.brackets = [] ∧ Behind st' level n ∧
      (∀ fuel rest, lexFrom (fuel + k) true st (cs ++ rest) = lexFrom fuel true st' rest) ∧
      st'.lexemes = (atLine m pre ++ ls).reverse ++ st.lexemes ∧
      ∀ m', P (ls ++ atLine m' (List.replicate n .dedent))

variable {level : Nat} {cs ds : List Char} {P Q R : List Lexeme → Prop}

theorem Chunk.mono (h : Chunk level cs P) (hPQ : ∀ ls, P ls → Q ls) : Chunk level cs Q := by
  obtain ⟨hplain, k, hk, hread⟩ := h
  refine ⟨hplain, k, hk, fun hst hpre => ?_⟩
  obtain ⟨st', ls, n, m, hst', hbehind, hlex, hls, hP⟩ := hread hst hpre
  exact ⟨st', ls, n, m, hst', hbehind, hlex, hls, fun m' => hPQ _ (hP m')⟩

/-- A line with tokens. -/
theorem chunk_row {ok : List Char → Prop} {ts : List Token} (h : Lexes ok cs ts)
    (hok : ∀ rest, ok ('\n' :: rest)) (hopen : OpensPiece cs)
    (hP : ∀ n, P (atLine n (ts ++ [.newline]))) :
    Chunk level (List.replicate (4 * level) ' ' ++ (cs ++ ['\n'])) P := by
  obtain ⟨k, hk, hread⟩ := lexFrom_row h hok hopen
  have hlen : 0 < cs.length := by
    obtain ⟨c, r, rfl, -⟩ := hopen
    simp
  refine ⟨by simp [h.plain], k + 2, by simp; omega, fun {st pre} hst hpre =>
    ⟨st.row level (pre ++ ts), atLine st.line (ts ++ [.newline]), 0, st.line, hst,
      ⟨[], rfl, by simp, rfl⟩, fun fuel rest => ?_, ?_, fun m' => by simpa [atLine] using hP st.line⟩⟩
  · rw [← hread hst hpre fuel rest, show fuel + (k + 2) = fuel + 1 + k + 1 by omega]
    simp
  · simp [LexState.row, LexState.next, LexState.pushAll, atLine]

/-- A blank line in front of a chunk. -/
theorem Chunk.blank_cons (h : Chunk level cs P) : Chunk level ('\n' :: cs) P := by
  obtain ⟨hplain, k, hk, hread⟩ := h
  refine ⟨by simpa using hplain, k + 1, by simp; omega, fun {st pre} hst hpre => ?_⟩
  have hnext : Leads st.next level pre := by
    cases hpre with
    | closes h => exact .closes h
    | opens h => exact .opens h
  obtain ⟨st', ls, n, m, hst', hbehind, hlex, hls, hP⟩ :=
    hread (show st.next.brackets = [] from hst) hnext
  refine ⟨st', ls, n, m, hst', hbehind, fun fuel rest => ?_, hls, hP⟩
  rw [← hlex, ← Nat.add_assoc, List.cons_append, lexFrom, measureIndent_flush (c := '\n') (by decide)]
  rfl

/-- A blank line behind a chunk. -/
theorem Chunk.concat_blank (h : Chunk level cs P) : Chunk level (cs ++ ['\n']) P := by
  obtain ⟨hplain, k, hk, hread⟩ := h
  refine ⟨by simpa using hplain, k + 1, by simp; omega, fun {st pre} hst hpre => ?_⟩
  obtain ⟨st', ls, n, m, hst', hbehind, hlex, hls, hP⟩ := hread hst hpre
  refine ⟨st'.next, ls, n, m, hst', hbehind, fun fuel rest => ?_, hls, hP⟩
  rw [show fuel + (k + 1) = fuel + 1 + k by omega, List.append_assoc, hlex, List.singleton_append,
    lexFrom, measureIndent_flush (c := '\n') (by decide)]
  rfl

/-- **One chunk behind another.** -/
theorem Chunk.append (h : Chunk level cs P) (h' : Chunk level ds Q)
    (hR : ∀ ls ls', P ls → Q ls' → R (ls ++ ls')) : Chunk level (cs ++ ds) R := by
  obtain ⟨hplain, k, hk, hread⟩ := h
  obtain ⟨hplain', k', hk', hread'⟩ := h'
  refine ⟨by simp [hplain, hplain'], k' + k, by simp; omega, fun {st pre} hst hpre => ?_⟩
  obtain ⟨st₁, ls, n, m, hst₁, hbehind, hlex, hls, hP⟩ := hread hst hpre
  obtain ⟨st₂, ls', n', m', hst₂, hbehind', hlex', hls', hQ⟩ := hread' hst₁ (.closes hbehind)
  refine ⟨st₂, ls ++ atLine m' (List.replicate n .dedent) ++ ls', n', m, hst₂, hbehind',
    fun fuel rest => ?_, ?_, fun m'' => ?_⟩
  · rw [← Nat.add_assoc, List.append_assoc, hlex, hlex']
  · rw [hls', hls]
    simp
  · rw [List.append_assoc (_ ++ _)]
    exact hR _ _ (hP m') (hQ m'')

/-- **A block under a line.** -/
theorem Chunk.block {ok : List Char → Prop} {ts : List Token} (h : Lexes ok cs ts)
    (hok : ∀ rest, ok ('\n' :: rest)) (hopen : OpensPiece cs) (hbody : Chunk (level + 1) ds Q)
    (hP : ∀ n m m' ls, Q ls →
      P (atLine n (ts ++ [.newline]) ++ ⟨.indent, m⟩ :: ls ++ [⟨.dedent, m'⟩])) :
    Chunk level (List.replicate (4 * level) ' ' ++ (cs ++ ['\n']) ++ ds) P := by
  obtain ⟨k, hk, hread⟩ := lexFrom_row h hok hopen
  obtain ⟨hplain, k', hk', hread'⟩ := hbody
  have hlen : 0 < cs.length := by
    obtain ⟨c, r, rfl, -⟩ := hopen
    simp
  refine ⟨by simp [h.plain, hplain], k' + (k + 2), by simp; omega, fun {st pre} hst hpre => ?_⟩
  obtain ⟨st', ls, n, m, hst', hbehind, hlex, hls, hQ⟩ :=
    hread' (show (st.row level (pre ++ ts)).brackets = [] from hst) (.opens rfl)
  refine ⟨st', atLine st.line (ts ++ [.newline]) ++ ⟨.indent, m⟩ :: ls, n + 1, st.line, hst',
    hbehind.around, fun fuel rest => ?_, ?_, fun m' => ?_⟩
  · rw [← hlex, ← hread hst hpre, show fuel + (k' + (k + 2)) = fuel + k' + 1 + k + 1 by omega]
    simp
  · rw [hls]
    simp [LexState.row, LexState.next, LexState.pushAll, atLine]
  · have := hP st.line m m' _ (hQ m')
    simpa [atLine, List.replicate_succ'] using this

/-- **A whole source.** -/
theorem Chunk.lex {s : String} (h : Chunk 0 s.toList P) :
    ∃ ls m, P ls ∧ (Syntax.lex s).lexemes = ls ++ [⟨.finish, m⟩] ∧ (Syntax.lex s).fault = none := by
  obtain ⟨hplain, k, hk, hread⟩ := h
  have hstart : Leads {} 0 [] := .closes (n := 0) ⟨[], rfl, by simp, rfl⟩
  obtain ⟨st, ls, n, m, -, ⟨ds, hds, -, rfl⟩, hlex, hls, hP⟩ :=
    hread (show ({} : LexState).brackets = [] from rfl) hstart
  obtain ⟨j, hj⟩ : ∃ j, 2 * s.toList.length + 2 = j + 1 + k :=
    ⟨2 * s.toList.length + 1 - k, by omega⟩
  have hend := hlex (j + 1) []
  rw [List.append_nil] at hend
  have hstop : lexFrom (j + 1) true st [] = lexFrom.finish st := by simp [lexFrom, measureIndent]
  refine ⟨_, st.line, hP st.line, ?_, ?_⟩
  · rw [Syntax.lex, normalizeFeeds_eq_self hplain, hj, hend, hstop, lexFrom.finish,
      LexState.foldl_dedent, hds, length_margins_zero]
    simp [LexState.stop, LexState.push, LexState.pushAll, hls, atLine]
  · rw [Syntax.lex, normalizeFeeds_eq_self hplain, hj, hend, hstop]
    rfl

end Facade.Syntax
