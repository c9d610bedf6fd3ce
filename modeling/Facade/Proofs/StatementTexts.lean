import Facade.Proofs.AnnotationTexts
import Facade.Proofs.Chunks
import Facade.Proofs.ParameterTexts

/-!
# Texts of statements

Statements are read back from their tokens, line by line and block by block.

* `SimpleReads`: the tokens of a line are read as a statement.
* `StmtReads`, `StmtsRead`: the lexemes of several lines are read as a statement, or as those of a block.
* `DefinitionReads`: a definition behind its decorators; `definitionReads_function`,
  `definitionReads_class`.
-/

namespace Facade.Syntax

open Text Reader

/-! ## Statements of one line -/

/-- A token that neither opens a compound statement nor ends a block. -/
def IsSimple (t : Token) : Prop :=
  t ∉ [.word "if", .word "while", .word "for", .word "def", .word "class", .word "async", .sign "@",
    .dedent, .finish]

/-- Tokens of a line are read as a statement. -/
structure SimpleReads (ts : List Token) (s : Stmt) : Prop where
  opens : ∃ t us, ts = t :: us ∧ IsSimple t
  reads : ∀ n fuel ls, 20 * ts.length + 10 ≤ fuel → nextToken ls = .newline →
    (simpleStmt fuel).run (atLine n ts ++ ls) = .ok (s, ls)

section Simple

variable {t : Token} {ts us hs : List Token} {e v a : Expr} {s : Stmt} {ls : List Lexeme}

theorem Opens.isSimple (h : Opens t) : IsSimple t := by
  intro ht
  simp only [List.mem_cons, List.not_mem_nil, or_false] at ht
  rcases ht with rfl | rfl | rfl | rfl | rfl | rfl | rfl | rfl | rfl <;> exact absurd h.1 (by decide)

theorem run_stmt_simple (h : IsSimple (nextToken ls)) (fuel : Nat) :
    (stmt (fuel + 1)).run ls = (simpleLine fuel).run ls := by
  rw [stmt, run_peek]
  split <;> first | rfl | (rename_i heq; rw [heq] at h; exact absurd (by simp) h)

theorem run_simpleStmt (h : Opens (nextToken ls)) (fuel : Nat) :
    (simpleStmt fuel).run ls = (exprStmt fuel).run ls := by
  rw [simpleStmt, run_peek]
  split <;> first | rfl | (rename_i heq; rw [heq] at h; exact absurd h.1 (by decide))

theorem ExprReads.list_run (h : ExprReads ts e) (n fuel : Nat) (hfuel : 20 * ts.length + 2 ≤ fuel)
    (hls : Closes ls) (hcomma : nextToken ls ≠ .sign ",") :
    (exprList fuel).run (atLine n ts ++ ls) = .ok (e, ls) := by
  obtain ⟨f, rfl⟩ : ∃ f, fuel = f + 2 := ⟨fuel - 2, by omega⟩
  rw [exprList, run_bind_ok _ (h.star_run n f ls (by omega) hls), run_peek, if_neg hcomma, run_pure]

theorem Stands.nextToken_opens (h : Stands ts e) (n : Nat) (ls : List Lexeme) :
    Opens (nextToken (atLine n ts ++ ls)) := by
  obtain ⟨t, r, rfl, ht⟩ := h.opens
  exact ht

theorem Stands.isSimple (h : Stands ts e) : ∃ t us, ts = t :: us ∧ IsSimple t := by
  obtain ⟨t, r, rfl, ht⟩ := h.opens
  exact ⟨t, r, rfl, ht.isSimple⟩

theorem closes_newline (h : nextToken ls = .newline) : Closes ls := by
  simp [Closes, closers, h]

/-- Whether an expression is a name. -/
def Expr.isName : Expr → Bool
  | .name _ => true
  | _ => false

/-- An expression that stands alone. -/
theorem ExprReads.simpleReads (h : ExprReads ts e) : SimpleReads ts (.expr e) where
  opens := h.isSimple
  reads n fuel ls hfuel hls := by
    rw [run_simpleStmt (h.nextToken_opens n ls), exprStmt, run_peek,
      run_bind_ok _ (h.list_run n fuel (by omega) (closes_newline hls) (by simp [hls])), run_peek, hls]
    rfl

/-- An assignment to one target. -/
theorem ExprReads.assign (ht : ExprReads ts e) (htarget : isTarget e = true) (hv : ExprReads us v) :
    SimpleReads (ts ++ .sign "=" :: us) (.assign [e] v) where
  opens := by
    obtain ⟨t, r, rfl, hsimple⟩ := ht.isSimple
    exact ⟨t, r ++ .sign "=" :: us, rfl, hsimple⟩
  reads n fuel ls hfuel hls := by
    simp only [List.length_append, List.length_cons] at hfuel
    obtain ⟨f, rfl⟩ : ∃ f, fuel = f + 2 := ⟨fuel - 2, by omega⟩
    have hrest : (assignRest (f + 2)).run (⟨.sign "=", n⟩ :: (atLine n us ++ ls)) = .ok ([v], ls) := by
      have hvalue := hv.list_run n (f + 1) (by omega) (closes_newline hls) (by simp [hls])
      have hend : (assignRest (f + 1)).run ls = .ok ([], ls) := by
        rw [assignRest, acceptSign, run_accept_other (by simp [hls]), run_pure]
      rw [assignRest, acceptSign, run_accept_self, run_bind_ok _ hvalue, run_bind_ok _ hend, run_pure]
    have htokens : atLine n (ts ++ .sign "=" :: us) ++ ls =
        atLine n ts ++ ⟨.sign "=", n⟩ :: (atLine n us ++ ls) := by simp [atLine]
    have hstar := ht.single
    rw [htokens, run_simpleStmt (ht.nextToken_opens n _), exprStmt, run_peek,
      run_bind_ok _ (ht.list_run n (f + 2) (by omega) (by simp [Closes, closers]) (by simp)), run_peek]
    simp only [nextToken_cons]
    rw [run_bind_ok _ hrest]
    simp only [List.dropLast, areTargets, htarget, Bool.and_true, Bool.not_true]
    rw [if_neg]
    · rfl
    · cases e <;> simp at hstar ⊢

/-- The tokens of a value behind what it is assigned to, if there is one. -/
def valueTokens (us : Option (List Token)) : List Token := us.elim [] (.sign "=" :: ·)

/-- An annotation of a place, with a value or without one. -/
theorem ExprReads.annotate (ht : ExprReads ts e) (hplace : isPlace e = true)
    (hparen : ts.head? ≠ some (.sign "(")) (ha : ExprReads hs a) {vs : Option (List Token)}
    {o : Option Expr} (hv : Option.Rel ExprReads vs o) :
    SimpleReads (ts ++ .sign ":" :: (hs ++ valueTokens vs)) (.annAssign e a o e.isName) where
  opens := by
    obtain ⟨t, r, rfl, hsimple⟩ := ht.isSimple
    exact ⟨t, r ++ .sign ":" :: (hs ++ valueTokens vs), rfl, hsimple⟩
  reads n fuel ls hfuel hls := by
    simp only [List.length_append, List.length_cons] at hfuel
    have htokens : atLine n (ts ++ .sign ":" :: (hs ++ valueTokens vs)) ++ ls =
        atLine n ts ++ ⟨.sign ":", n⟩ :: (atLine n hs ++ (atLine n (valueTokens vs) ++ ls)) := by
      simp [atLine]
    have hclose : Closes (atLine n (valueTokens vs) ++ ls) := by
      cases vs with
      | none => exact closes_newline hls
      | some us => simp [valueTokens, Closes, closers]
    have hfirst : nextToken (atLine n (ts ++ .sign ":" :: (hs ++ valueTokens vs)) ++ ls) ≠ .sign "(" := by
      obtain ⟨t, r, rfl, -⟩ := ht.opens
      simpa using hparen
    rw [run_simpleStmt (by rw [htokens]; exact ht.nextToken_opens n _), exprStmt, run_peek]
    simp only [hfirst]
    rw [htokens, run_bind_ok _ (ht.list_run n fuel (by omega) (by simp [Closes, closers]) (by simp)),
      run_peek]
    simp only [nextToken_cons, hplace, Bool.not_true, Bool.false_eq_true, if_false]
    rw [run_next, run_bind_ok _ (ha.reads n fuel _ (by omega) hclose), acceptSign]
    cases hv with
    | none =>
      rw [run_accept_other (by simp [hls, valueTokens])]
      cases e <;> rfl
    | @some us v hv =>
      simp only [valueTokens, Option.elim, List.length_cons] at hfuel
      have hread : (some <$> exprList fuel).run (atLine n us ++ ls) = .ok (some v, ls) := by
        rw [map_eq_pure_bind, run_bind_ok _ (hv.list_run n fuel (by omega) (closes_newline hls)
          (by simp [hls]))]
        rfl
      rw [show atLine n (valueTokens (some us)) ++ ls = ⟨.sign "=", n⟩ :: (atLine n us ++ ls) from rfl,
        run_accept_self, run_bind_ok _ hread]
      cases e <;> rfl

/-- A result that is given back. -/
theorem ExprReads.returns (h : ExprReads ts e) : SimpleReads (.word "return" :: ts) (.returns (some e)) where
  opens := ⟨_, _, rfl, by simp [IsSimple]⟩
  reads n fuel ls hfuel hls := by
    simp only [List.length_cons] at hfuel
    rw [atLine_cons, List.cons_append, simpleStmt, run_peek]
    simp only [nextToken_cons]
    rw [run_next, run_peek, if_pos (h.nextToken_opens n ls).1,
      run_bind_ok _ (h.list_run n fuel (by omega) (closes_newline hls) (by simp [hls])), run_pure]

theorem simpleReads_pass : SimpleReads [.word "pass"] .pass where
  opens := ⟨_, _, rfl, by simp [IsSimple]⟩
  reads n fuel ls hfuel hls := rfl

/-! ### Imports -/

/-- The text of a dotted name, by its parts. -/
def dotJoined (p : List Char) (ps : List (List Char)) : List Char := p ++ ps.flatMap ('.' :: ·)

/-- The tokens of a dotted name. -/
def dottedTokens (p : List Char) (ps : List (List Char)) : List Token :=
  .word (String.ofList p) :: ps.flatMap fun q => [.sign ".", .word (String.ofList q)]

section Dotted

variable {p : List Char} {ps : List (List Char)}

theorem lexes_dotted (h : ∀ q ∈ p :: ps, isPlainName (String.ofList q) = true) :
    Lexes (Avoids joinsWord) (dotJoined p ps) (dottedTokens p ps) := by
  induction ps generalizing p with
  | nil =>
    have := lexes_word (isIdentifier_of_isPlainName (h p (by simp)))
    simpa [dotJoined, dottedTokens] using this
  | cons q ps ih =>
    rw [List.forall_mem_cons] at h
    have hq := isIdentifier_of_isPlainName (h.2 q List.mem_cons_self)
    obtain ⟨c, r, hc, hstart⟩ := isIdentifierStart_of_isIdentifier hq
    rw [String.toList_ofList] at hc
    have hpoint := lexes_point.append (ih h.2) fun rest _ => by
      rw [dotJoined, hc]
      exact avoids_cons (joinsPoint_of_isIdentifierStart hstart) _
    have hword := (lexes_word (isIdentifier_of_isPlainName h.1)).append hpoint fun rest _ =>
      avoids_cons (c := '.') (joinsWord_of_ascii (by decide)) _
    simpa [dotJoined, dottedTokens] using hword

/-- A dotted name is read up to its end. -/
theorem dottedName_run (h : ∀ q ∈ p :: ps, isPlainName (String.ofList q) = true) (n : Nat) {fuel : Nat}
    (hls : nextToken ls ≠ .sign ".") (hfuel : ps.length < fuel) :
    (dottedName fuel).run (atLine n (dottedTokens p ps) ++ ls) =
      .ok (String.ofList (dotJoined p ps), ls) := by
  induction ps generalizing p fuel with
  | nil =>
    obtain ⟨f, rfl⟩ := Nat.exists_eq_succ_of_ne_zero (Nat.ne_of_gt hfuel)
    have htokens : atLine n (dottedTokens p []) ++ ls = ⟨.word (String.ofList p), n⟩ :: ls := rfl
    rw [htokens, dottedName, run_name (h p List.mem_cons_self), acceptSign, run_accept_other hls, run_pure]
    simp [dotJoined]
  | cons q ps ih =>
    rw [List.forall_mem_cons] at h
    obtain ⟨f, rfl⟩ := Nat.exists_eq_succ_of_ne_zero (Nat.ne_of_gt (Nat.zero_lt_of_lt hfuel))
    have htokens : atLine n (dottedTokens p (q :: ps)) ++ ls =
        ⟨.word (String.ofList p), n⟩ :: ⟨.sign ".", n⟩ :: (atLine n (dottedTokens q ps) ++ ls) := rfl
    rw [htokens, dottedName, run_name h.1, acceptSign, run_accept_self,
      run_bind_ok _ (ih h.2 (Nat.lt_of_succ_lt_succ hfuel)), run_pure]
    simp [dotJoined, ← String.toList_inj]

/-- An import of a module, under a name of its own or not. -/
theorem simpleReads_import (h : ∀ q ∈ p :: ps, isPlainName (String.ofList q) = true)
    {b : Option String} (hb : ∀ s ∈ b, isPlainName s = true) :
    SimpleReads (.word "import" :: (dottedTokens p ps ++ b.elim [] fun s => [.word "as", .word s]))
      (.imports [⟨String.ofList (dotJoined p ps), b⟩]) where
  opens := ⟨_, _, rfl, by simp [IsSimple]⟩
  reads n fuel ls hfuel hls := by
    have hlen : ps.length < (dottedTokens p ps).length := by
      have : ∀ qs : List (List Char), qs.length ≤
          (qs.flatMap fun q => [Token.sign ".", .word (String.ofList q)]).length := by
        intro qs
        induction qs with
        | nil => simp
        | cons q qs ih =>
          simp only [List.flatMap_cons, List.length_append, List.length_cons, List.length_nil]
          omega
      exact Nat.lt_succ_of_le (this ps)
    simp only [List.length_cons, List.length_append] at hfuel
    obtain ⟨f, rfl⟩ : ∃ f, fuel = f + 1 := ⟨fuel - 1, by omega⟩
    have hnext : nextToken (atLine n (b.elim [] fun s => [.word "as", .word s]) ++ ls) ≠ .sign "." := by
      cases b <;> simp [hls]
    have hbound : boundName.run (atLine n (b.elim [] fun s => [.word "as", .word s]) ++ ls) =
        .ok (b, ls) := by
      cases b with
      | none =>
        rw [boundName, acceptWord]
        exact run_accept_other (by simp [hls]) _ _
      | some s =>
        have htokens : atLine n ((some s).elim [] fun s => [Token.word "as", .word s]) ++ ls =
            ⟨.word "as", n⟩ :: ⟨.word s, n⟩ :: ls := rfl
        rw [htokens, boundName, acceptWord, run_accept_self, run_name (hb s rfl), run_pure]
    have hnames : (importNames (f + 1)).run (atLine n (dottedTokens p ps) ++
        (atLine n (b.elim [] fun s => [.word "as", .word s]) ++ ls)) =
          .ok ([⟨String.ofList (dotJoined p ps), b⟩], ls) := by
      rw [importNames, run_bind_ok _ (dottedName_run h n hnext (by omega)), run_bind_ok _ hbound,
        acceptSign, run_accept_other (by simp [hls]), run_pure]
    have htokens : atLine n (.word "import" :: (dottedTokens p ps ++
        b.elim [] fun s => [.word "as", .word s])) ++ ls = ⟨.word "import", n⟩ ::
          (atLine n (dottedTokens p ps) ++
            (atLine n (b.elim [] fun s => [.word "as", .word s]) ++ ls)) := by
      simp [atLine]
    rw [htokens, simpleStmt, run_peek]
    simp only [nextToken_cons]
    rw [run_next, run_bind_ok _ hnames, run_pure]

end Dotted

end Simple

/-! ## Statements of several lines -/

/-- Lexemes are read as a statement, or as those of a line. -/
structure StmtReads (ss : List Stmt) (ls : List Lexeme) : Prop where
  opens : nextToken ls ∉ [.dedent, .finish]
  reads : ∀ fuel rest, 20 * ls.length ≤ fuel → (stmt fuel).run (ls ++ rest) = .ok (ss, rest)

/-- Lexemes are read as the statements of a block, where it ends behind them. -/
structure StmtsRead (ss : List Stmt) (ls : List Lexeme) : Prop where
  opens : nextToken ls ∉ [.dedent, .finish]
  reads : ∀ fuel rest, 20 * ls.length < fuel → nextToken rest ∈ [.dedent, .finish] →
    (stmts fuel).run (ls ++ rest) = .ok (ss, rest)

/-- Lexemes are read as a definition behind its decorators. -/
structure DefinitionReads (es : List Expr) (d : List Expr → Stmt) (ls : List Lexeme) : Prop where
  opens : nextToken ls ∈ [.sign "@", .word "def", .word "async", .word "class"]
  bare : es = [] → nextToken ls ≠ .sign "@"
  reads : ∀ fuel rest, 20 * ls.length ≤ fuel + 10 →
    ∃ ls', (decorators fuel).run (ls ++ rest) = .ok (es, ls') ∧
      ∀ ds fuel', 20 * ls.length ≤ fuel' + 10 → (definition fuel' ds).run ls' = .ok (d ds, rest)

section Several

variable {ts us : List Token} {e : Expr} {es : List Expr} {s : Stmt} {d : List Expr → Stmt}
  {ss ss' : List Stmt} {ls ls' : List Lexeme}

theorem nextToken_append (h : nextToken ls ≠ .finish) (rest : List Lexeme) :
    nextToken (ls ++ rest) = nextToken ls := by
  cases ls with
  | nil => exact absurd rfl h
  | cons l ls => rfl

theorem length_pos_of_nextToken (h : nextToken ls ≠ .finish) : 0 < ls.length := by
  cases ls with
  | nil => exact absurd rfl h
  | cons l ls => exact Nat.succ_pos _

/-- A line with one statement. -/
theorem SimpleReads.stmtReads (h : SimpleReads ts s) (n : Nat) :
    StmtReads [s] (atLine n (ts ++ [.newline])) := by
  obtain ⟨t, us, rfl, hsimple⟩ := h.opens
  refine ⟨fun hmem => hsimple (by simp at hmem ⊢; tauto), fun fuel rest hfuel => ?_⟩
  simp only [atLine, List.length_map, List.length_append, List.length_cons, List.length_nil] at hfuel
  obtain ⟨f, rfl⟩ : ∃ f, fuel = f + 2 := ⟨fuel - 2, by omega⟩
  have htokens : atLine n (t :: us ++ [.newline]) ++ rest =
      atLine n (t :: us) ++ ⟨.newline, n⟩ :: rest := by simp [atLine]
  have hnext : IsSimple (nextToken (atLine n (t :: us) ++ ⟨.newline, n⟩ :: rest)) := hsimple
  rw [htokens, run_stmt_simple hnext, simpleLine, run_bind_ok _ (h.reads n f _ (by simp; omega) rfl),
    acceptSign, run_accept_other (by simp), run_expect, run_pure]

theorem StmtReads.stmtsRead (h : StmtReads ss ls) : StmtsRead ss ls where
  opens := h.opens
  reads fuel rest hfuel hrest := by
    obtain ⟨f, rfl⟩ := Nat.exists_eq_succ_of_ne_zero (Nat.ne_of_gt (Nat.zero_lt_of_lt hfuel))
    rw [stmts, run_bind_ok _ (h.reads f rest (by omega)), run_peek]
    simp only [List.mem_cons, List.not_mem_nil, or_false] at hrest
    rcases hrest with hrest | hrest <;> simp only [hrest] <;> rfl

/-- Statements behind a statement. -/
theorem StmtReads.append (h : StmtReads ss ls) (h' : StmtsRead ss' ls') :
    StmtsRead (ss ++ ss') (ls ++ ls') := by
  have hne : nextToken ls ≠ .finish := fun heq => h.opens (by simp [heq])
  have hne' : nextToken ls' ≠ .finish := fun heq => h'.opens (by simp [heq])
  have hpos := length_pos_of_nextToken hne
  refine ⟨by rw [nextToken_append hne]; exact h.opens, fun fuel rest hfuel hrest => ?_⟩
  rw [List.length_append] at hfuel
  obtain ⟨f, rfl⟩ := Nat.exists_eq_succ_of_ne_zero (Nat.ne_of_gt (Nat.zero_lt_of_lt hfuel))
  rw [List.append_assoc, stmts, run_bind_ok _ (h.reads f _ (by omega)), run_peek, nextToken_append hne']
  have hmore := h'.reads f rest (by omega) hrest
  have hopens := h'.opens
  split
  · rename_i heq
    exact absurd (by simp [heq]) hopens
  · rename_i heq
    exact absurd (by simp [heq]) hopens
  · rw [run_bind_ok _ hmore, run_pure]

/-- **A block.** -/
theorem StmtsRead.block (h : StmtsRead ss ls) (n m m' fuel : Nat) (rest : List Lexeme)
    (hfuel : 20 * ls.length + 1 < fuel) :
    (block fuel).run (⟨.newline, n⟩ :: ⟨.indent, m⟩ :: (ls ++ ⟨.dedent, m'⟩ :: rest)) =
      .ok (ss, rest) := by
  obtain ⟨f, rfl⟩ : ∃ f, fuel = f + 1 := ⟨fuel - 1, by omega⟩
  rw [Reader.block, run_accept_self, run_accept_self,
    run_bind_ok _ (h.reads f _ (by omega) (by simp)), run_expect, run_pure]

/-- A definition without decorators. -/
theorem definitionReads_bare (hopen : nextToken ls ∈ [.word "def", .word "async", .word "class"])
    (h : ∀ ds fuel rest, 20 * ls.length ≤ fuel + 10 →
      (definition fuel ds).run (ls ++ rest) = .ok (d ds, rest)) : DefinitionReads [] d ls := by
  have hsign : nextToken ls ≠ .sign "@" := fun heq => by simp [heq] at hopen
  have hne : nextToken ls ≠ .finish := fun heq => by simp [heq] at hopen
  have hpos := length_pos_of_nextToken hne
  refine ⟨List.mem_cons_of_mem _ hopen, fun _ => hsign, fun fuel rest hfuel =>
    ⟨ls ++ rest, ?_, fun ds fuel' => h ds fuel' rest⟩⟩
  obtain ⟨f, rfl⟩ : ∃ f, fuel = f + 1 := ⟨fuel - 1, by omega⟩
  rw [decorators, acceptSign, run_accept_other (by rwa [nextToken_append hne]), run_pure]

/-- A decorator in front of a definition. -/
theorem DefinitionReads.cons (h : DefinitionReads es d ls) (he : ExprReads ts e) (n : Nat) :
    DefinitionReads (e :: es) d (atLine n (.sign "@" :: ts ++ [.newline]) ++ ls) := by
  refine ⟨by simp, by simp, fun fuel rest hfuel => ?_⟩
  simp only [atLine, List.length_map, List.length_append, List.length_cons, List.length_nil] at hfuel
  have hpos := he.length_pos
  obtain ⟨f, rfl⟩ : ∃ f, fuel = f + 1 := ⟨fuel - 1, by omega⟩
  obtain ⟨ls', hls', hread⟩ := h.reads f rest (by omega)
  refine ⟨ls', ?_, fun ds fuel' hfuel' => hread ds fuel' (by rw [List.length_append] at hfuel'; omega)⟩
  have htokens : atLine n (.sign "@" :: ts ++ [.newline]) ++ ls ++ rest =
      ⟨.sign "@", n⟩ :: (atLine n ts ++ ⟨.newline, n⟩ :: (ls ++ rest)) := by simp
  rw [htokens, decorators, acceptSign, run_accept_self,
    run_bind_ok _ (he.reads n f _ (by omega) (by simp [Closes, closers])), run_expect,
    run_bind_ok _ hls', run_pure]

/-- A definition is a statement. -/
theorem DefinitionReads.stmtReads (h : DefinitionReads es d ls) : StmtReads [d es] ls where
  opens hmem := by
    have := h.opens
    simp only [List.mem_cons, List.not_mem_nil, or_false] at this hmem
    rcases this with this | this | this | this <;> simp [this] at hmem
  reads fuel rest hfuel := by
    have hopens := h.opens
    have hne : nextToken ls ≠ .finish := fun heq => by simp [heq] at hopens
    have hpos := length_pos_of_nextToken hne
    obtain ⟨f, rfl⟩ : ∃ f, fuel = f + 1 := ⟨fuel - 1, by omega⟩
    obtain ⟨ls', hls', hread⟩ := h.reads f rest (by omega)
    have hdefinition := hread es f (by omega)
    rw [stmt, run_peek, nextToken_append hne]
    by_cases hsign : nextToken ls = .sign "@"
    · simp only [hsign]
      rw [run_bind_ok _ hls', run_bind_ok _ hdefinition, run_pure]
    · -- Nothing is read as decorators there.
      obtain ⟨g, rfl⟩ : ∃ g, f = g + 1 := ⟨f - 1, by omega⟩
      rw [decorators, acceptSign, run_accept_other (by rwa [nextToken_append hne]), run_pure] at hls'
      obtain ⟨rfl, rfl⟩ : [] = es ∧ ls ++ rest = ls' := by simpa using hls'
      simp only [List.mem_cons, List.not_mem_nil, or_false, hsign, false_or] at hopens
      rcases hopens with hopens | hopens | hopens <;> simp only [hopens] <;>
        rw [run_bind_ok _ hdefinition, run_pure]

end Several

/-! ## Definitions -/

section Definitions

variable {ts : List Token} {tss : List (List Token)} {us : Option (List Token)} {name : String}
  {isAsync : Bool} {ps : List Param} {o : Option Expr} {acc : ArgsRead} {body : List Stmt}
  {ls rest : List Lexeme}

/-- Tokens are read as a parameter list, up to the parenthesis behind it. -/
def ParamsRun (ts : List Token) (ps : List Param) : Prop :=
  ∀ n fuel ls, 20 * ts.length + 2 ≤ fuel →
    (params fuel {}).run (atLine n ts ++ ⟨.sign ")", n⟩ :: ls) = .ok (ps, ls)

/-- The words that a function opens with. -/
def defTokens (isAsync : Bool) : List Token :=
  if isAsync then [.word "async", .word "def"] else [.word "def"]

/-- The tokens of a function from its name to its colon. -/
def functionTokens (name : String) (ts : List Token) (us : Option (List Token)) : List Token :=
  .word name :: .sign "(" :: (ts ++ .sign ")" :: (us.elim [] (.sign "->" :: ·) ++ [.sign ":"]))

/-- The tokens of a class from its name to its colon. -/
def classTokens (name : String) (tss : List (List Token)) : List Token :=
  .word name :: ((if tss.isEmpty then [] else .sign "(" :: ([.sign ","].intercalate tss ++ [.sign ")"])) ++
    [.sign ":"])

/-- The lexemes of a block under a line. -/
def blockUnder (n : Nat) (ts : List Token) (m : Nat) (ls : List Lexeme) (m' : Nat) : List Lexeme :=
  atLine n (ts ++ [.newline]) ++ ⟨.indent, m⟩ :: ls ++ [⟨.dedent, m'⟩]

theorem blockUnder_append (n : Nat) (ts : List Token) (m : Nat) (ls : List Lexeme) (m' : Nat)
    (rest : List Lexeme) : blockUnder n ts m ls m' ++ rest =
      atLine n ts ++ ⟨.newline, n⟩ :: ⟨.indent, m⟩ :: (ls ++ ⟨.dedent, m'⟩ :: rest) := by
  simp [blockUnder]

theorem length_blockUnder (n : Nat) (ts : List Token) (m : Nat) (ls : List Lexeme) (m' : Nat) :
    (blockUnder n ts m ls m').length = ts.length + ls.length + 3 := by
  simp [blockUnder, atLine]
  omega

/-- The result that a function states is read. -/
theorem run_result {α : Type} (h : Option.Rel ExprReads us o) (n fuel : Nat) (ls : List Lexeme)
    (k : Option Expr → Reader α)
    (hfuel : 20 * (us.elim [] (.sign "->" :: ·) : List Token).length ≤ fuel + 20) :
    (acceptSign "->" >>= fun b => if b then some <$> expr fuel >>= k else pure none >>= k).run
        (atLine n (us.elim [] (.sign "->" :: ·)) ++ ⟨.sign ":", n⟩ :: ls) =
      (k o).run (⟨.sign ":", n⟩ :: ls) := by
  cases h with
  | none =>
    rw [acceptSign, Option.elim, atLine_nil, List.nil_append, run_accept_other (by simp), pure_bind]
  | @some us e he =>
    have hread := he.reads n fuel (⟨.sign ":", n⟩ :: ls) (by simp at hfuel; omega)
      (by simp [Closes, closers])
    rw [acceptSign, Option.elim, atLine_cons, List.cons_append, run_accept_self, map_eq_pure_bind,
      bind_assoc, run_bind_ok _ hread, pure_bind]

/-- **A function,** from its name on. -/
theorem function_run (isAsync : Bool) (hname : isPlainName name = true) (hparams : ParamsRun ts ps)
    (hresult : Option.Rel ExprReads us o) (hbody : StmtsRead body ls) (ds : List Expr)
    (n m m' fuel : Nat) (rest : List Lexeme)
    (hfuel : 20 * ((functionTokens name ts us).length + ls.length) ≤ fuel + 20) :
    (function fuel isAsync ds).run
        (blockUnder n (functionTokens name ts us) m ls m' ++ rest) =
      .ok (.define isAsync name ps o ds body, rest) := by
  simp only [functionTokens, List.length_cons, List.length_append, List.length_nil] at hfuel
  obtain ⟨f, rfl⟩ : ∃ f, fuel = f + 1 := ⟨fuel - 1, by omega⟩
  have htokens : blockUnder n (functionTokens name ts us) m ls m' ++ rest =
      ⟨.word name, n⟩ :: ⟨.sign "(", n⟩ :: (atLine n ts ++ ⟨.sign ")", n⟩ ::
        (atLine n (us.elim [] (.sign "->" :: ·)) ++
          ⟨.sign ":", n⟩ :: ⟨.newline, n⟩ :: ⟨.indent, m⟩ :: (ls ++ ⟨.dedent, m'⟩ :: rest))) := by
    simp [blockUnder_append, functionTokens]
  rw [htokens, function, run_name hname, expectSign, run_expect, run_bind_ok _ (hparams n f _ (by omega)),
    run_result hresult n f _ _ (by omega), expectSign, run_expect,
    run_bind_ok _ (hbody.block n m m' f rest (by omega)), run_pure]

/-- A function, from its first word on. -/
theorem definitionReads_function (hname : isPlainName name = true) (hparams : ParamsRun ts ps)
    (hresult : Option.Rel ExprReads us o) (hbody : StmtsRead body ls) (n m m' : Nat) :
    DefinitionReads [] (fun ds => .define isAsync name ps o ds body)
      (blockUnder n (defTokens isAsync ++ functionTokens name ts us) m ls m') := by
  refine definitionReads_bare ?_ fun ds fuel rest hfuel => ?_
  · cases isAsync <;> simp [blockUnder, defTokens]
  · rw [length_blockUnder, List.length_append] at hfuel
    obtain ⟨f, rfl⟩ : ∃ f, fuel = f + 1 := ⟨fuel - 1, by omega⟩
    have hread := function_run isAsync hname hparams hresult hbody ds n m m' f rest (by omega)
    cases isAsync with
    | false =>
      have htokens : blockUnder n (defTokens false ++ functionTokens name ts us) m ls m' ++ rest =
          ⟨.word "def", n⟩ :: (blockUnder n (functionTokens name ts us) m ls m' ++ rest) := by
        simp [blockUnder, defTokens]
      rw [htokens, definition, run_peek]
      simp only [nextToken_cons]
      rw [run_next, hread]
    | true =>
      have htokens : blockUnder n (defTokens true ++ functionTokens name ts us) m ls m' ++ rest =
          ⟨.word "async", n⟩ :: ⟨.word "def", n⟩ ::
            (blockUnder n (functionTokens name ts us) m ls m' ++ rest) := by
        simp [blockUnder, defTokens]
      rw [htokens, definition, run_peek]
      simp only [nextToken_cons]
      rw [run_next, run_expect, hread]

/-- **A class.** -/
theorem definitionReads_class (hname : isPlainName name = true) (hbases : ArgsRead.Reads tss {} acc)
    (hbody : StmtsRead body ls) (n m m' : Nat) :
    DefinitionReads [] (fun ds => .class name acc.args.reverse acc.keywords.reverse ds body)
      (blockUnder n (.word "class" :: classTokens name tss) m ls m') := by
  refine definitionReads_bare (by simp [blockUnder]) fun ds fuel rest hfuel => ?_
  rw [length_blockUnder] at hfuel
  obtain ⟨f, rfl⟩ : ∃ f, fuel = f + 1 := ⟨fuel - 1, by omega⟩
  have hblock := hbody.block n m m' f rest (by omega)
  rw [blockUnder_append, definition, atLine_cons, List.cons_append, run_peek]
  simp only [nextToken_cons]
  cases hbases with
  | nil acc =>
    simp only [classTokens, List.isEmpty_nil, if_true, List.nil_append, atLine_cons, atLine_nil,
      List.cons_append]
    rw [run_next, run_name hname, acceptSign, run_accept_other (by simp), pure_bind, expectSign,
      run_expect, run_bind_ok _ hblock, run_pure]
  | @cons us uss acc acc' acc'' h hs =>
    have hargs := (ArgsRead.Reads.cons h hs).run n f
      (⟨.sign ":", n⟩ :: ⟨.newline, n⟩ :: ⟨.indent, m⟩ :: (ls ++ ⟨.dedent, m'⟩ :: rest))
      (by simp [classTokens] at hfuel; omega)
    simp only [classTokens, List.isEmpty_cons, Bool.false_eq_true, if_false, List.cons_append, atLine_cons,
      atLine_append, atLine_nil, List.nil_append, List.append_assoc]
    rw [run_next, run_name hname, acceptSign, run_accept_self, run_bind_ok _ hargs, expectSign, run_expect,
      run_bind_ok _ hblock, run_pure]

end Definitions

end Facade.Syntax
